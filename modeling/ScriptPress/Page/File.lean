import ScriptPress.Page.Content
import ScriptPress.Text.Numeral

/-!
# Document files

The file of a document: numbered objects for the page tree, the fonts, each page with its content
stream and the catalogue, and behind them a cross-reference stream with the offset of each.
A document without pages is written with one blank page.

The text of the file is in Latin-1, so characters and bytes are the same and offsets count both.

## Main definitions

* `Document.objects` — the objects in front of the cross-reference stream.
* `Document.fileText`, `Document.bytes` — the file.
* `pageStreams?` — the content streams of the pages of such a file.
-/

namespace ScriptPress.Page

open Text

/-! ## Objects -/

def dictionary (entries : String) : List Char := "<<".toList ++ entries.toList ++ ">>".toList

def streamObject (entries : String) (content : List Char) : List Char :=
  dictionary (entries ++ s!"/Length {content.length}") ++ "stream\n".toList ++ content ++
    "\nendstream ".toList

def fontObject (family : FontFamily) : List Char :=
  dictionary s!"/Type/Font/Subtype/Type1/BaseFont/{family.baseFont}/Encoding/WinAnsiEncoding"

/-- The number of the object of page `i`, counted from 0. -/
def pageNumber (i : Nat) : Nat := 7 + 2 * i

def pagesObject (n : Nat) : List Char :=
  let kids := String.intercalate " " ((List.range n).map fun i => s!"{pageNumber i} 0 R")
  dictionary s!"/Type/Pages/Kids[{kids}]/Count {n}"

/-- The page with the content stream of number `content`. -/
def pageObject (content : Nat) : List Char :=
  let width := (pageWidth * pointsPerMm).toDecimal
  let height := (pageHeight * pointsPerMm).toDecimal
  dictionary <|
    s!"/Type/Page/Parent 1 0 R/Resources 5 0 R/Contents {content} 0 R" ++
      s!"/MediaBox[0 0 {width} {height}]"

namespace Document

def writtenPages (d : Document) : List (List Mark) := if d.pages = [] then [[]] else d.pages

/-- The two objects of each page: its content stream and its dictionary. -/
def pageObjects (pages : List (List Mark)) : List (List Char) :=
  pages.zipIdx.flatMap fun (page, i) =>
    [streamObject "" (pageContent page), pageObject (pageNumber i - 1)]

/-- The objects in front of the cross-reference stream, in the order of their numbers. -/
def objects (d : Document) : List (List Char) :=
  [pagesObject d.writtenPages.length] ++ FontFamily.all.map fontObject ++
    [dictionary "/Font<</F1 2 0 R/F2 3 0 R/F3 4 0 R>>"] ++ pageObjects d.writtenPages ++
    [dictionary "/Type/Catalog/Pages 1 0 R"]

end Document

/-! ## The file -/

def numbered (number : Nat) (object : List Char) : List Char :=
  s!"{number} 0 obj\n".toList ++ object ++ "\nendobj\n".toList

/-- The entry of an object at an offset in the cross-reference stream: its type, the offset in four
bytes, the highest first, and generation 0. -/
def crossReference (offset : Nat) : List Char :=
  [Char.ofNat 1, Char.ofNat (offset >>> 24 % 256), Char.ofNat (offset >>> 16 % 256),
    Char.ofNat (offset >>> 8 % 256), Char.ofNat (offset % 256), Char.ofNat 0, Char.ofNat 0]

/-- Objects numbered from `number`, at the offset `offset`: their text and their offsets. -/
def layOut (number offset : Nat) : List (List Char) → List Char × List Nat
  | [] => ([], [])
  | object :: objects =>
    let here := numbered number object
    let (text, offsets) := layOut (number + 1) (offset + here.length) objects
    (here ++ text, offset :: offsets)

def fileHeader : List Char := "%PDF-1.4\n".toList

namespace Document

def fileText (d : Document) : List Char :=
  let (body, offsets) := layOut 1 fileHeader.length d.objects
  let catalog := d.objects.length
  let n := catalog + 1
  let here := fileHeader.length + body.length
  let entries := s!"/Root {catalog} 0 R/Type/XRef/Size {n + 1}/W[1 4 2]/Index[1 {n}]"
  let table := streamObject entries ((offsets ++ [here]).flatMap crossReference)
  fileHeader ++ body ++ numbered n table ++ s!"\nstartxref\n{here}\n%%EOF".toList

def bytes (d : Document) : Bytes := latin1Bytes d.fileText

end Document

/-! ## Reading back -/

/-- The content of a page's stream object that begins here, and what follows it. -/
def streamHere? (s : List Char) : Option (List Char × List Char) := do
  let rest ← startsWith? "<</Length ".toList s
  let (length, rest) ← leadingNumber? rest
  let rest ← startsWith? ">>stream\n".toList rest
  guard (length ≤ rest.length)
  return rest.splitAt length

/-- The content streams that begin in a text; `skip` characters belong to the stream before. -/
def streamsFrom : (skip : Nat) → List Char → List (List Char)
  | _, [] => []
  | skip + 1, _ :: s => streamsFrom skip s
  | 0, c :: s =>
    match streamHere? (c :: s) with
    | some (content, rest) => content :: streamsFrom (s.length - rest.length) s
    | none => streamsFrom 0 s

/-- The content streams of the pages of a file, if it has the marks of one. -/
def pageStreams? (bs : Bytes) : Option (List (List Char)) :=
  let text := ofLatin1Bytes bs
  (startsWith? "%PDF-".toList text).map (streamsFrom 0)

end ScriptPress.Page
