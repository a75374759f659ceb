import MarkupAudit.Document.Build
import MarkupAudit.Fault
import MarkupAudit.Markup.Scan

/-!
# Documents

A document is the tree that a markup text describes, with a label for its source and what was
noticed while it was read.
-/

namespace MarkupAudit

/-- A document. Fragments are documents too: nothing is wrapped around their nodes. -/
structure Document where
  source : String
  hasDoctype : Bool
  /-- The markup has an `html` element. -/
  hasHtmlRoot : Bool
  notices : List Notice
  nodes : List Node

namespace Document

def rootTag : String := "#document"

def root (d : Document) : Element :=
  ⟨rootTag, .empty, d.nodes⟩

def ofNodes (source : String) (nodes : List Node) : Document where
  source := source
  hasDoctype := false
  hasHtmlRoot := false
  notices := []
  nodes := nodes

/-- The document that a forest nested as written gives; `noticed` was noticed before. -/
def ofForest (source : String) (noticed : List Notice) (forest : List Markup.RawNode) : Document :=
  let (nodes, notices) := Build.replay forest
  { source := source
    hasDoctype := forest.any Markup.RawNode.isDoctype
    hasHtmlRoot := Markup.RawNode.mentionsAny "html" forest
    notices := noticed ++ notices
    nodes := nodes }

/-- The name of the parser that is used unless another is asked for. It alone keeps the first of
several values of an attribute. -/
def standardParser : String := "html.parser"

def parserFeatures : List String := [standardParser, "html", "strict"]

def textItems (items : List Value) : Except Fault (List String) :=
  items.zipIdx.mapM fun (v, place) =>
    match v with
    | .str s => .ok s
    | v => .error (.itemNotText place v.kind)

/-- Whether the parser that has one of the wanted features keeps the first of several values of an
attribute. -/
def keepsFirst (wanted : Value) : Except Fault Bool :=
  let choose := fun (names : List String) =>
    if names.isEmpty || names.any parserFeatures.contains then .ok false
    else .error (.unknownParser names)
  match wanted with
  | .str s => if s = standardParser then .ok true else choose [s]
  | .list items =>
    if items.any fun v => match v with
        | .str s => parserFeatures.contains s
        | _ => false then .ok false
    else (textItems items).bind choose
  | .object fields => choose (fields.map Prod.fst)
  | .null => .ok false
  | v => .error (.withoutLength v.kind)

/-- The mark that may stand before the text of a file. -/
def byteOrderMark : Char := '\ufeff'

/-- A fault of scanning as one of reading. A number that cannot be read is a fault of its own; all
else makes the markup unreadable. -/
def scanFault : Markup.Fault → Fault
  | .numeral cause => .number cause
  | cause => .unreadableMarkup cause

def read (keepFirst : Bool) (source markup : String) : Except Fault Document :=
  match Markup.Scan.events (markup.toList.dropWhile (· == byteOrderMark)) with
  | .error cause => .error (scanFault cause)
  | .ok events =>
    let (forest, noticed) := Markup.RawNode.ofEvents keepFirst events
    let d := ofForest source noticed forest
    .ok (if Text.isBlankText markup then { d with notices := d.notices ++ [.emptyDocument] } else d)

def parse (parser : Value) (source : String) : Value → Except Fault Document
  | .null => .error .missingMarkup
  | .str markup => do read (← keepsFirst parser) source markup
  | v => .error (.markupNotText v.kind)

end Document

end MarkupAudit
