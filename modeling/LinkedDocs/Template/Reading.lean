import LinkedDocs.Template.Token

/-! Reading templates.

    The reader is an automaton over tokens. Its state holds the arrays and documents still open,
    innermost first, and what may come next. A comma may stand before the closing bracket or brace
    of a container that is not empty. -/

namespace LinkedDocs.Template

/-- A container still open, with the members before the one being read. -/
inductive Frame where
  | array (done : List Template)
  | document (done : List (Key × Template)) (key : Key)

/-- What may come next. -/
inductive Need where
  | value
  /-- An item of an array, or its end. -/
  | item (done : List Template)
  /-- A member of a document, or its end. -/
  | member (done : List (Key × Template))
  | colon (done : List (Key × Template)) (key : Key)
  /-- A value is complete. -/
  | separator (v : Template)
  | objectIdOpen
  | objectIdText
  | objectIdClose (s : String)

structure ReaderState where
  outer : List Frame
  need : Need

/-- A value that is a single token. -/
def Token.leaf? : Token → Option Template
  | .string s => some (.string s)
  | .placeholder n => some (.placeholder n)
  | .expression s => some (.expression s)
  | .integer n => some (.value (.int n))
  | .float x => some (.value (.float x))
  | .keyword k => some (.value k.value)
  | _ => none

/-- A key. Words and numbers are names, reserved words too. -/
def Token.key? : Token → Option Key
  | .string s => some (.string s)
  | .placeholder n => some (.placeholder n)
  | .expression s => some (.expression s)
  | .word s => some (.name s)
  | .integer n => some (.name (Value.int n).plain)
  | .float x => some (.name (Value.float x).plain)
  | .keyword k => some (.name k.word)
  | .objectId => some (.name Token.objectIdWord)
  | _ => none

namespace ReaderState

def start : ReaderState := ⟨[], .value⟩

/-- The first token of a value. -/
def begin (outer : List Frame) (t : Token) : Option ReaderState :=
  match t with
  | .openBrace => some ⟨outer, .member []⟩
  | .openBracket => some ⟨outer, .item []⟩
  | .objectId => some ⟨outer, .objectIdOpen⟩
  | t => t.leaf?.map fun v => ⟨outer, .separator v⟩

/-- The token after a value: it belongs to the container around it. -/
def proceed (outer : List Frame) (v : Template) (t : Token) : Option ReaderState :=
  match outer, t with
  | .array done :: outer, .comma => some ⟨outer, .item (done ++ [v])⟩
  | .array done :: outer, .closeBracket => some ⟨outer, .separator (.array (done ++ [v]))⟩
  | .document done key :: outer, .comma => some ⟨outer, .member (done ++ [(key, v)])⟩
  | .document done key :: outer, .closeBrace =>
    some ⟨outer, .separator (.document (done ++ [(key, v)]))⟩
  | _, _ => none

/-- Takes one token. -/
def step (s : ReaderState) (t : Token) : Option ReaderState :=
  match s.need, t with
  | .value, t => begin s.outer t
  | .item done, .closeBracket => some ⟨s.outer, .separator (.array done)⟩
  | .item done, t => begin (.array done :: s.outer) t
  | .member done, .closeBrace => some ⟨s.outer, .separator (.document done)⟩
  | .member done, t => t.key?.map fun k => ⟨s.outer, .colon done k⟩
  | .colon done key, .colon => some ⟨.document done key :: s.outer, .value⟩
  | .separator v, t => proceed s.outer v t
  | .objectIdOpen, .openParen => some ⟨s.outer, .objectIdText⟩
  | .objectIdText, .string x => some ⟨s.outer, .objectIdClose x⟩
  | .objectIdClose x, .closeParen => some ⟨s.outer, .separator (.objectId x)⟩
  | _, _ => none

/-- The template, if one is complete. -/
def finish (s : ReaderState) : Option Template :=
  match s.outer, s.need with
  | [], .separator v => some v
  | _, _ => none

end ReaderState

def reader : Scan.Reader Token ReaderState Template where
  language := .template
  start := .start
  step := ReaderState.step
  finish := ReaderState.finish
  shown := Token.shown

/-- Reads a template. -/
def parse (source : String) : Except Failure Template := reader.read source (Token.scan source)

end LinkedDocs.Template
