import CodeSurvey.Toml.Item
import CodeSurvey.Toml.Moment
import CodeSurvey.Toml.TextReader

/-! A TOML document as statements; values nest, and keys reach, less than 80 deep. -/

namespace CodeSurvey.Toml

def limit : Nat := 80

def skipBlanks (cs : List Char) : List Char := cs.dropWhile isBlank

def skipComment : List Char → List Char
  | '#' :: cs => cs.dropWhile isPlain
  | cs => cs

def lineEnd (cs : List Char) : Option (List Char) :=
  match skipComment (skipBlanks cs) with
  | [] => some []
  | cs => newline cs

def skipSpace : (fuel : Nat) → List Char → List Char
  | 0, cs => cs
  | fuel + 1, cs =>
    match skipLines cs with
    | '#' :: rest => skipSpace fuel (rest.dropWhile isPlain)
    | rest => rest

/-- Everything within brackets that says nothing. Each turn drops a comment, so the length is
enough. -/
def skipAll (cs : List Char) : List Char := skipSpace (cs.length + 1) cs

def isKeyChar (c : Char) : Bool := c.isAlphanum || c == '-' || c == '_'

def simpleKey (cs : List Char) : Option (String × List Char) :=
  match cs with
  | '"' :: _ => quotedLine cs
  | '\'' :: _ => quotedLine cs
  | cs =>
    match cs.takeWhile isKeyChar with
    | [] => none
    | key => some (String.ofList key, cs.dropWhile isKeyChar)

def keyParts : (fuel : Nat) → List Char → Option (List String × List Char)
  | 0, _ => none
  | fuel + 1, cs =>
    match simpleKey (skipBlanks cs) with
    | none => none
    | some (part, rest) =>
      match skipBlanks rest with
      | '.' :: rest => (keyParts fuel rest).map (fun r => (part :: r.1, r.2))
      | rest => some ([part], rest)

def key (cs : List Char) : Option (List String × List Char) :=
  match keyParts (cs.length + 1) cs with
  | some (parts, rest) => if parts.length < limit then some (parts, rest) else none
  | none => none

def word (w : String) (item : Item) (cs : List Char) : Option (Item × List Char) :=
  if w.toList.isPrefixOf cs then some (item, cs.drop w.length) else none

def scalar (cs : List Char) : Option (Item × List Char) :=
  match cs with
  | [] => none
  | c :: _ =>
    if c = '"' ∨ c = '\'' then (quotedText cs).map (fun r => (.text r.1, r.2))
    else if c = 't' then word "true" (.bool true) cs
    else if c = 'f' then word "false" (.bool false) cs
    else if c = 'i' ∨ c = 'n' then specialFloat cs
    else moment cs <|> float cs <|> integer cs

def elements (one : List Char → Option (Item × List Char)) :
    (fuel : Nat) → List Char → Option (List Item × List Char)
  | 0, _ => none
  | fuel + 1, cs =>
    match skipAll cs with
    | ']' :: rest => some ([], rest)
    | cs =>
      match one cs with
      | none => none
      | some (item, rest) =>
        match skipAll rest with
        | ',' :: rest => (elements one fuel rest).map (fun r => (item :: r.1, r.2))
        | ']' :: rest => some ([item], rest)
        | _ => none

def pair (one : List Char → Option (Item × List Char)) (cs : List Char) :
    Option ((List String × Item) × List Char) :=
  match key cs with
  | some (path, '=' :: rest) =>
    (one (skipBlanks rest)).map (fun r => ((path, r.1), r.2))
  | _ => none

def pairs (one : List Char → Option (Item × List Char)) :
    (fuel : Nat) → List Char → Option (List (List String × Item) × List Char)
  | 0, _ => none
  | fuel + 1, cs =>
    match pair one cs with
    | none => none
    | some (p, rest) =>
      match skipBlanks rest with
      | ',' :: rest => (pairs one fuel rest).map (fun r => (p :: r.1, r.2))
      | '\x7d' :: rest => some ([p], rest)
      | _ => none

def inlineTable (one : List Char → Option (Item × List Char)) (cs : List Char) :
    Option (Item × List Char) :=
  match skipBlanks cs with
  | '\x7d' :: rest => some (.inline [], rest)
  | _ =>
    match pairs one (cs.length + 1) cs with
    | none => none
    | some (ps, rest) => (Fields.insertAll [] ps).map (fun fields => (.inline fields, rest))

def value : (depth : Nat) → List Char → Option (Item × List Char)
  | 0, cs =>
    match cs with
    | '[' :: _ => none
    | '\x7b' :: _ => none
    | cs => scalar cs
  | depth + 1, cs =>
    match cs with
    | '[' :: rest =>
      (elements (value depth) (cs.length + 1) rest).map (fun r => (.array r.1, r.2))
    | '\x7b' :: rest => inlineTable (value depth) rest
    | cs => scalar cs

inductive Statement where
  | nothing
  | entry (path : List String) (item : Item)
  | header (path : List String)
  | arrayHeader (path : List String)

def header (cs : List Char) : Option (Statement × List Char) :=
  match cs with
  | '[' :: rest =>
    match key rest with
    | some (path, ']' :: ']' :: rest) => some (.arrayHeader path, rest)
    | _ => none
  | rest =>
    match key rest with
    | some (path, ']' :: rest) => some (.header path, rest)
    | _ => none

def statement (cs : List Char) : Option (Statement × List Char) :=
  match skipBlanks cs with
  | [] => some (.nothing, [])
  | c :: rest =>
    if c = '#' ∨ c = '\n' ∨ c = '\r' then
      (lineEnd (c :: rest)).map (fun rest => (.nothing, rest))
    else
      let read :=
        if c = '[' then header rest
        else (pair (value (limit - 1)) (c :: rest)).map (fun r => (.entry r.1.1 r.1.2, r.2))
      match read with
      | none => none
      | some (s, rest) => (lineEnd rest).map (fun rest => (s, rest))

def statements : (fuel : Nat) → List Char → Option (List Statement)
  | 0, _ => none
  | fuel + 1, cs =>
    match statement cs with
    | none => none
    | some (s, []) => some [s]
    | some (s, rest) => (statements fuel rest).map (fun ss => s :: ss)

def leading : List Statement → List (List String × Item) × List Statement
  | [] => ([], [])
  | .nothing :: ss => leading ss
  | .entry path item :: ss => ((path, item) :: (leading ss).1, (leading ss).2)
  | ss => ([], ss)

def assemble (fields : Fields) : List Statement → Option Fields
  | [] => some fields
  | .header path :: ss =>
    (fields.openTable path (leading ss).1).bind (fun fields => assemble fields ss)
  | .arrayHeader path :: ss =>
    (fields.appendTable path (leading ss).1).bind (fun fields => assemble fields ss)
  | _ :: ss => assemble fields ss

def document (ss : List Statement) : Option Fields :=
  (Fields.insertAll [] (leading ss).1).bind (fun fields => assemble fields (leading ss).2)

def withoutMark (cs : List Char) : List Char :=
  if cs.head? = some (Char.ofNat 0xFEFF) then cs.tail else cs

def parse? (s : String) : Option Fields :=
  let cs := withoutMark s.toList
  (statements (cs.length + 1) cs).bind document

end CodeSurvey.Toml
