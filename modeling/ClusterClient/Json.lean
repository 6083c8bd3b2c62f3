import ClusterClient.Binary64

namespace ClusterClient

/-- A number of a document. Integers from `-2 ^ 63` to below `2 ^ 64` stay integers. -/
inductive Json.Number where
  | integer (value : Int)
  | double (value : Binary64)
  deriving DecidableEq, Repr

/-- A document. The readers keep the keys of an object in byte order, each once. -/
inductive Json where
  | null
  | bool (value : Bool)
  | number (value : Json.Number)
  | text (value : String)
  | list (items : List Json)
  | object (fields : List (String × Json))
  deriving Repr

namespace Json

abbrev Fields := List (String × Json)

namespace Fields

def get? (fields : Fields) (name : String) : Option Json := fields.lookup name

def has (fields : Fields) (name : String) : Bool := (fields.get? name).isSome

/-- Set a field: in the place of the field of that name, or else in byte order. -/
def insert (name : String) (value : Json) : Fields → Fields
  | [] => [(name, value)]
  | (other, old) :: rest =>
    if name = other then (name, value) :: rest
    else if name < other then (name, value) :: (other, old) :: rest
    else (other, old) :: insert name value rest

/-- Fields in byte order; of several of one name the last one stays. -/
def ofList (fields : List (String × Json)) : Fields :=
  fields.foldl (fun sorted field => insert field.1 field.2 sorted) []

@[simp] theorem get?_nil (name : String) : get? [] name = none := rfl

theorem get?_cons (name other : String) (value : Json) (rest : Fields) :
    get? ((other, value) :: rest) name = if name = other then some value else get? rest name := by
  by_cases same : name = other
  · simp [get?, same]
  · have unequal : (name == other) = false := by simpa using same
    simp [get?, List.lookup_cons, same, unequal]

@[simp] theorem get?_insert_self (name : String) (value : Json) (fields : Fields) :
    (insert name value fields).get? name = some value := by
  induction fields with
  | nil => simp [insert, get?_cons]
  | cons field rest ih =>
    obtain ⟨other, old⟩ := field
    simp only [insert]
    split
    · simp [get?_cons]
    · split <;> simp [get?_cons, *]

theorem get?_insert_other {name other : String} (value : Json) (fields : Fields)
    (different : other ≠ name) : (insert name value fields).get? other = fields.get? other := by
  induction fields with
  | nil => simp [insert, get?_cons, different]
  | cons field rest ih =>
    obtain ⟨first, old⟩ := field
    simp only [insert]
    split
    · next same => subst same; simp [get?_cons, different]
    · split <;> simp [get?_cons, different, ih]

end Fields

/-- The field of an object; anything else has none. -/
def field? (name : String) : Json → Option Json
  | object fields => Fields.get? fields name
  | _ => none

def text? : Json → Option String
  | text value => some value
  | _ => none

def items? : Json → Option (List Json)
  | list items => some items
  | _ => none

end Json

end ClusterClient
