import ContentSync.Json.Parser

/-!
# Typed reading

A record is read from an object, its members in any order, or from an array of its fields in order
of declaration.  Unknown members are skipped.  The first thing that is wrong, in the order of the
input, decides the error; only then are missing fields looked for, in order of declaration.

* `ReadError` — why a typed value could not be read, and `ReadError.message`; `Complaint` — what is
  said of a text that is no JSON.
* `Reader` — a function from inputs to values.
* `Field`, `record` — reading a record field by field into a partial record.
* `ofJson`, `ofText`, `ofBytes` — applying a reader to a value or to a whole text.
-/

namespace ContentSync.Json

/-! ## Errors -/

/-- Why a typed value could not be read. -/
inductive ReadError where
  | missingField (name : String)
  | duplicateField (name : String)
  | unknownVariant (name : String)
  /-- A value of another kind stands here. -/
  | invalidType
  /-- A number out of range, or an object where a name was expected. -/
  | invalidValue
  /-- An array with too few or too many items. -/
  | invalidLength
  /-- Not JSON, or a text that is no date, and the like. -/
  | other
  deriving DecidableEq

/-- The wording of a read error. -/
def ReadError.message : ReadError → String
  | .missingField name => "missing field `" ++ name ++ "`"
  | .duplicateField name => "duplicate field `" ++ name ++ "`"
  | .unknownVariant name => "unknown variant `" ++ name ++ "`"
  | .invalidType => "invalid type"
  | .invalidValue => "invalid value"
  | .invalidLength => "invalid length"
  | .other => "other"

/-- A typed reader. -/
abbrev Reader (α : Type) := Input → Except ReadError α

/-- **How a text that is no JSON is complained of.**  The words, and the place that they point to,
are up to whoever reads the text. -/
abbrev Complaint := ByteArray → String

/-- The complaint that tells the kind of the error and nothing else. -/
def Complaint.plain : Complaint := fun _ => ReadError.other.message

namespace Reader

variable {α β σ : Type}

/-! ## Simple values -/

/-- The error of a reader that expected something else. -/
def mismatch : Input → ReadError
  | .unfit => .other
  | .broken => .other
  | _ => .invalidType

/-- Skips a value, whatever it is. -/
def skip : Reader Unit := fun i => if i.wellFormed then .ok () else .error .other

/-- Any value. -/
def json : Reader Json := fun i =>
  match i.toJson? with
  | some v => .ok v
  | none => .error .other

/-- A text. -/
def string : Reader String
  | .string s => .ok s
  | i => .error (mismatch i)

/-- A truth value. -/
def bool : Reader Bool
  | .bool b => .ok b
  | i => .error (mismatch i)

/-- An integer within bounds. -/
def intBetween (low high : Int) : Reader Int
  | .number (.int n) => if low ≤ n ∧ n ≤ high then .ok n else .error .invalidValue
  | i => .error (mismatch i)

/-- A natural number below `2 ^ width`. -/
def natBelow (width : Nat) : Reader Nat := fun i =>
  (intBetween 0 (Nat.pow 2 width - 1) i).map Int.toNat

/-- A value or `null`. -/
def optional (r : Reader α) : Reader (Option α)
  | .null => .ok none
  | i => (r i).map some

/-- Reads items one after another. -/
def items (r : Reader α) : List Input → Except ReadError (List α)
  | [] => .ok []
  | i :: rest =>
      match r i with
      | .error e => .error e
      | .ok v => (items r rest).map (v :: ·)

/-- A list of values. -/
def list (r : Reader α) : Reader (List α)
  | .array _ is => items r is
  | i => .error (mismatch i)

/-- **A choice between names.**  Written as a text, or as an object whose only key is the name and
whose value is `null`. -/
def variant (choose : String → Option α) : Reader α
  | .string s => pick s
  | .object [(some s, i)] =>
      match pick s, i with
      | .error e, _ => .error e
      | .ok v, .null => .ok v
      | .ok _, i => .error (mismatch i)
  | .object _ => .error .invalidValue
  | i => .error (mismatch i)
where
  pick (s : String) : Except ReadError α :=
    match choose s with
    | some v => .ok v
    | none => .error (.unknownVariant s)

/-! ## Records -/

/-- Whether a field may be left out. -/
inductive Presence where
  /-- It must be given. -/
  | needed
  /-- It may be left out of an object, but an array has a place for it. -/
  | keyed
  /-- It may be left out. -/
  | free
  deriving DecidableEq

/-- A field of a record that is collected in `σ`: its name, what reading it adds, and whether it
may be left out. -/
structure Field (σ : Type) where
  name : String
  take : σ → Input → Except ReadError σ
  presence : Presence

/-- A field that must be given. -/
def Field.needed (name : String) (r : Reader α) (set : σ → α → σ) : Field σ :=
  ⟨name, fun s i => (r i).map (set s), .needed⟩

/-- A field whose value may be `null` or left out of an object. -/
def Field.nullable (name : String) (r : Reader α) (set : σ → Option α → σ) : Field σ :=
  ⟨name, fun s i => ((optional r) i).map (set s), .keyed⟩

/-- A field that may be left out. -/
def Field.default (name : String) (r : Reader α) (set : σ → α → σ) : Field σ :=
  ⟨name, fun s i => (r i).map (set s), .free⟩

/-- Reads the members of an object in order; also returns the names of the fields met.  What has no
field goes to `unknown`. -/
def members (fields : List (Field σ)) (unknown : σ → String → Input → Except ReadError σ) :
    List (Option String × Input) → List String → σ → Except ReadError (List String × σ)
  | [], seen, s => .ok (seen, s)
  | (none, _) :: _, _, _ => .error .other
  | (some key, i) :: rest, seen, s =>
      match fields.find? fun f => f.name == key with
      | none =>
          match unknown s key i with
          | .error e => .error e
          | .ok s' => members fields unknown rest seen s'
      | some f =>
          if key ∈ seen then .error (.duplicateField key)
          else
            match f.take s i with
            | .error e => .error e
            | .ok s' => members fields unknown rest (key :: seen) s'

/-- The first required field that was not met. -/
def firstMissing (fields : List (Field σ)) (seen : List String) : Option String :=
  (fields.find? fun f => f.presence == .needed && !seen.contains f.name).map Field.name

/-- A record given as an object. -/
def object (fields : List (Field σ)) (unknown : σ → String → Input → Except ReadError σ) (start : σ)
    (ms : List (Option String × Input)) : Except ReadError σ :=
  match members fields unknown ms [] start with
  | .error e => .error e
  | .ok (seen, s) =>
      match firstMissing fields seen with
      | some name => .error (.missingField name)
      | none => .ok s

/-- Skips a member that has no field. -/
def skipMember (s : σ) (_ : String) (i : Input) : Except ReadError σ := (skip i).map fun _ => s

/-- **A record given as an array.**  Fields beyond the end must be ones that may be left out.  Items
beyond the last field are malformed in a text and a wrong length in a value. -/
def positional (origin : Origin) : List (Field σ) → List Input → σ → Except ReadError σ
  | [], [], s => .ok s
  | [], _ :: _, _ => .error (if origin = .text then .other else .invalidLength)
  | f :: fs, [], s =>
      if f.presence = .free then positional origin fs [] s else .error .invalidLength
  | f :: fs, i :: is, s =>
      match f.take s i with
      | .error e => .error e
      | .ok s' => positional origin fs is s'

/-- A record. -/
def record (fields : List (Field σ)) (start : σ) : Reader σ
  | .object ms => object fields skipMember start ms
  | .array origin is => positional origin fields is start
  | i => .error (mismatch i)

/-- A record that keeps the members that have no field: `keep` takes up each, in order.  It must be
given as an object. -/
def openRecord (fields : List (Field σ)) (keep : σ → String → Json → σ) (start : σ) : Reader σ
  | .object ms => object fields (fun s key i => (json i).map (keep s key)) start ms
  | i => .error (mismatch i)

/-! ## Alternatives named by a member -/

/-- Takes the member `tag` out of an object; its value must be a text and must not be repeated. -/
def takeTag (tag : String) :
    List (Option String × Input) → Option String →
      Except ReadError (Option String × List (Option String × Input))
  | [], found => .ok (found, [])
  | (none, _) :: _, _ => .error .other
  | (some key, i) :: rest, found =>
      if key = tag then
        if found.isSome then .error (.duplicateField tag)
        else
          match string i with
          | .error e => .error e
          | .ok name => takeTag tag rest (some name)
      else
        match i.buffer? with
        | none => .error .other
        | some v =>
            match takeTag tag rest found with
            | .error e => .error e
            | .ok (name, ms) => .ok (name, (some key, v) :: ms)

/-- **An alternative named by the member `tag`** of an object, or by the first item of an array.
A known alternative is read from the other members or items; an unknown one has the value `other`,
and then the members do not matter, but there must be no further item. -/
def tagged (tag : String) (known : String → Option (Reader α)) (other : α) : Reader α
  | .object ms =>
      match takeTag tag ms none with
      | .error e => .error e
      | .ok (none, _) => .error (.missingField tag)
      | .ok (some name, rest) =>
          match known name with
          | some r => r (.object rest)
          | none => .ok other
  | .array _ [] => .error (.missingField tag)
  | .array _ (i :: rest) =>
      match string i with
      | .error e => .error e
      | .ok name =>
          match Input.bufferItems? rest, known name with
          | none, _ => .error .other
          | some rest, some r => r (.array .value rest)
          | some rest, none => if rest.isEmpty then .ok other else .error .invalidLength
  | i => .error (mismatch i)

/-- What a reader gives, worked on further. -/
def andThen (r : Reader α) (f : α → Except ReadError β) : Reader β := fun i =>
  match r i with
  | .error e => .error e
  | .ok v => f v

/-! ## Whole values and texts -/

/-- Reads from a value. -/
def ofJson (r : Reader α) (v : Json) : Except ReadError α := r (Input.ofJson v)

/-- Reads from an input that must be followed by nothing but blanks. -/
def whole (r : Reader α) (p : Input × Bool) : Except ReadError α :=
  match r p.1 with
  | .error e => .error e
  | .ok v => if p.2 then .ok v else .error .other

/-- Reads from a text. -/
def ofText (r : Reader α) (s : String) : Except ReadError α := whole r (Input.ofText s)

/-- Reads from octets. -/
def ofBytes (r : Reader α) (bytes : ByteArray) : Except ReadError α := whole r (Input.ofBytes bytes)

end Reader

end ContentSync.Json
