/-! What a TOML document holds, and the rules for putting it together. -/

namespace CodeSurvey.Toml

inductive Origin where
  | header
  | implied
  | dotted
deriving DecidableEq, Repr

inductive Item where
  | text (s : String)
  | integer (n : Int)
  | float (literal : String)
  | moment (literal : String)
  | bool (b : Bool)
  | array (items : List Item)
  | inline (fields : List (String × Item))
  | table (origin : Origin) (fields : List (String × Item))
  | tables (elements : List (List (String × Item)))

abbrev Fields := List (String × Item)

namespace Fields

def lookup? (fields : Fields) (key : String) : Option Item :=
  (fields.find? (fun f => f.1 == key)).map Prod.snd

def set (fields : Fields) (key : String) (item : Item) : Fields :=
  match fields with
  | [] => [(key, item)]
  | f :: fields => if f.1 = key then (key, item) :: fields else f :: set fields key item

def onLast {α : Type} (f : α → Option α) : List α → Option (List α)
  | [] => none
  | [a] => (f a).map (fun a => [a])
  | a :: b :: as => (onLast f (b :: as)).map (fun r => a :: r)

def insert (fields : Fields) (path : List String) (item : Item) : Option Fields :=
  match path with
  | [] => none
  | [key] =>
    match fields.lookup? key with
    | none => some (fields ++ [(key, item)])
    | some _ => none
  | key :: next :: path =>
    match fields.lookup? key with
    | none => (insert [] (next :: path) item).map (fun t => fields.set key (.table .dotted t))
    | some (.table .dotted sub) =>
      (insert sub (next :: path) item).map (fun t => fields.set key (.table .dotted t))
    | some (.table .implied sub) =>
      if path = [] then none
      else (insert sub (next :: path) item).map (fun t => fields.set key (.table .implied t))
    | some (.tables elements) =>
      if path = [] then none
      else
        (onLast (fun t => insert t (next :: path) item) elements).map
          (fun es => fields.set key (.tables es))
    | some _ => none

def insertAll (fields : Fields) : List (List String × Item) → Option Fields
  | [] => some fields
  | (path, item) :: rest =>
    match fields.insert path item with
    | none => none
    | some fields => insertAll fields rest

def update (fields : Fields) (path : List String) (f : Option Item → Option Item) :
    Option Fields :=
  match path with
  | [] => none
  | [key] => (f (fields.lookup? key)).map (fun item => fields.set key item)
  | key :: next :: path =>
    match fields.lookup? key with
    | none => (update [] (next :: path) f).map (fun t => fields.set key (.table .implied t))
    | some (.table origin sub) =>
      (update sub (next :: path) f).map (fun t => fields.set key (.table origin t))
    | some (.tables elements) =>
      (onLast (fun t => update t (next :: path) f) elements).map
        (fun es => fields.set key (.tables es))
    | some _ => none

def openTable (fields : Fields) (path : List String) (body : List (List String × Item)) :
    Option Fields :=
  fields.update path (fun old =>
    match old with
    | none => (insertAll [] body).map (Item.table .header)
    | some (.table .implied sub) => (insertAll sub body).map (Item.table .header)
    | some _ => none)

def appendTable (fields : Fields) (path : List String) (body : List (List String × Item)) :
    Option Fields :=
  fields.update path (fun old =>
    match old with
    | none => (insertAll [] body).map (fun t => .tables [t])
    | some (.tables elements) => (insertAll [] body).map (fun t => .tables (elements ++ [t]))
    | some _ => none)

end Fields

namespace Item

def fields? : Item → Option Fields
  | .inline fields => some fields
  | .table _ fields => some fields
  | _ => none

end Item

end CodeSurvey.Toml
