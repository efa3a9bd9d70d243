import WorkflowCanvas.Json.Reader

/-! Readers of records. The fields of a record are described once, in the order of its declaration;
the description gives the reading of an object, where members come in any order and others are
passed over or kept, and of a list that holds the fields in order. -/
namespace WorkflowCanvas

/-- One field of a record whose fields read so far are kept in a state `σ`. -/
structure Seat (σ : Type) where
  key : String
  /-- Whether the field has been read. -/
  taken : σ → Bool
  read : Reader (σ → σ)
  /-- Whether a list of the fields may end before this one. -/
  spare : Bool

/-- The field as one of a larger record. -/
def Seat.lift {σ τ : Type} (get : τ → σ) (change : (σ → σ) → τ → τ) (seat : Seat σ) : Seat τ :=
  ⟨seat.key, seat.taken ∘ get, seat.read.map change, seat.spare⟩

/-- A description of fields from which a value of type `α` is made. -/
structure Fields (α : Type) where
  State : Type
  start : State
  seats : List (Seat State)
  /-- The value, or the first field that is missing. -/
  finish : State → Except Misfit α

namespace Fields
variable {α β : Type}

def pure (a : α) : Fields α := ⟨Unit, (), [], fun _ => .ok a⟩

/-- The fields of both descriptions, those of the first before those of the second. -/
def ap (f : Fields (α → β)) (x : Fields α) : Fields β where
  State := f.State × x.State
  start := (f.start, x.start)
  seats := f.seats.map (Seat.lift Prod.fst fun g s => (g s.1, s.2)) ++
    x.seats.map (Seat.lift Prod.snd fun g s => (s.1, g s.2))
  finish s := do
    let g ← f.finish s.1
    let a ← x.finish s.2
    return g a

instance : Applicative Fields where
  pure := pure
  seq f x := ap f (x ())

/-- One field; `absent` is what an object without it gives. -/
def one (key : String) (r : Reader α) (absent : Except Misfit α) (spare : Bool) : Fields α where
  State := Option α
  start := none
  seats := [⟨key, Option.isSome, r.map fun a _ => some a, spare⟩]
  finish
    | some a => .ok a
    | none => absent

/-- A field that has to be there. -/
def required (key : String) (r : Reader α) : Fields α := one key r (.error (.missing key)) false

/-- A field that an object may lack or give as `null`, but not a list. -/
def lacking (key : String) (r : Reader α) : Fields (Option α) := one key r.option (.ok none) false

/-- A field with a default, which stands in where the field is missing. -/
def optional (key : String) (r : Reader α) (default : α) : Fields α :=
  one key r (.ok default) true

/-- The field of the given name. -/
def seat? (fields : Fields α) (key : String) : Option (Seat fields.State) :=
  fields.seats.find? (·.key == key)

/-! Reading from values -/

/-- Read the members of an object in turn. `other` takes those under other keys. -/
def ofMembers (fields : Fields α) {κ : Type} (other : String → Json → κ → κ) :
    List (String × Json) → fields.State → κ → Except Misfit (fields.State × κ)
  | [], s, rest => .ok (s, rest)
  | (key, j) :: entries, s, rest =>
    match fields.seat? key with
    | none => ofMembers fields other entries s (other key j rest)
    | some seat =>
      if seat.taken s then .error (.repeated key)
      else do
        let change ← seat.read.ofJson j
        ofMembers fields other entries (change s) rest

/-- Read a list of the fields, of which `count` have been passed. The list may end before fields that
have a default. -/
def ofItems {σ : Type} (expected : String) :
    Nat → List (Seat σ) → List Json → σ → Except Misfit (σ × List Json)
  | _, [], items, s => .ok (s, items)
  | count, seat :: seats, [], s =>
    if seat.spare then ofItems expected (count + 1) seats [] s else .error (.wrongLength count expected)
  | count, seat :: seats, j :: items, s => do
    let change ← seat.read.ofJson j
    ofItems expected (count + 1) seats items (change s)

/-- The length that a list of the fields has. -/
def lengthText (name : String) (fields : Fields α) : String :=
  match fields.seats.length with
  | 1 => s!"{name} with 1 element"
  | n => s!"{name} with {n} elements"

/-! Reading from text -/

/-- A misfit that no position has been given to yet, or an error that has one. -/
inductive Trouble where
  | loose (misfit : Misfit) (c : Cursor)
  | placed (e : TextError)

def place {γ : Type} (e : Except TextError γ) : Except Trouble γ := e.mapError .placed

/-- Read the members of an object up to its end. `other` reads those under other keys. -/
def ofMembersText (fields : Fields α) {κ : Type} (other : String → Reader (κ → κ)) :
    Nat → Bool → fields.State → κ → Cursor → Except Trouble (fields.State × κ × Cursor)
  | 0, _, _, _, c => place (c.failHere .expectedValue)
  | fuel + 1, first, s, rest, c => do
    match ← place (Scan.nextKey first c) with
    | (none, c) => return (s, rest, c)
    | (some key, c) =>
      match fields.seat? key with
      | none =>
        let (_, c) ← place (Scan.colon c)
        let (change, c) ← place ((other key).ofText c)
        ofMembersText fields other fuel false s (change rest) c
      | some seat =>
        if seat.taken s then throw (.loose (.repeated key) c)
        else
          let (_, c) ← place (Scan.colon c)
          let (change, c) ← place (seat.read.ofText c)
          ofMembersText fields other fuel false (change s) rest c

/-- Read a list of the fields, of which `count` have been passed, as far as there are fields. -/
def ofItemsText {σ : Type} (expected : String) :
    Nat → List (Seat σ) → σ → Cursor → Except Trouble (σ × Cursor)
  | _, [], s, c => .ok (s, c)
  | count, seat :: seats, s, c => do
    let (more, c) ← place (Scan.nextItem (count == 0) c)
    if more then
      let (change, c) ← place (seat.read.ofText c)
      ofItemsText expected (count + 1) seats (change s) c
    else if seat.spare then ofItemsText expected (count + 1) seats s c
    else throw (.loose (.wrongLength count expected) c)

/-- Go past the bracket that ends an object, or report what stands there instead. -/
def endMembers : Scan Unit := fun c =>
  let c := c.skipBlank
  match c.peek? with
  | none => c.fail .endInObject
  | some '}' => .ok ((), Scan.closeBracket c)
  | some ',' => c.failHere .trailingComma
  | some _ => c.failHere .trailingCharacters

/-- Go past the bracket that ends a list of fields, or report what stands there instead. -/
def endItems : Scan Unit := fun c =>
  let c := c.skipBlank
  match c.peek? with
  | none => c.fail .endInList
  | some ']' => .ok ((), Scan.closeBracket c)
  | some ',' =>
    let c := c.next.skipBlank
    if c.peek? = some ']' then c.failHere .trailingComma else c.failHere .trailingCharacters
  | some _ => c.failHere .trailingCharacters

/-- A misfit without a position is reported where the reading of the bracket's end stops, whether
the end is there or not. -/
def settle (finish : Scan Unit) (misfit : Misfit) (c : Cursor) : TextError :=
  match finish c with
  | .ok (_, c) => ⟨.unfit misfit, c.position⟩
  | .error _ => ⟨.unfit misfit, c.skipBlank.position⟩

/-- The value, once the bracket has been closed. -/
def close (finish : Scan Unit) (read : Except Trouble (α × Cursor)) : Except TextError (α × Cursor) :=
  match read with
  | .ok (a, c) => do
    let (_, c) ← finish c
    return (a, c)
  | .error (.placed e) => .error e
  | .error (.loose misfit c) => .error (settle finish misfit c)

/-- A misfit found at a cursor. -/
def looseAt {γ : Type} (c : Cursor) (e : Except Misfit γ) : Except Trouble γ :=
  e.mapError (.loose · c)

end Fields

namespace Reader
variable {α : Type}

/-- A record. Members under other keys are passed over. -/
def record (name : String) (fields : Fields α) : Reader α where
  ofJson
    | .obj members => do
      let (s, _) ← fields.ofMembers (fun _ _ rest => rest) members fields.start ()
      fields.finish s
    | .arr items => do
      let (s, extra) ← Fields.ofItems (fields.lengthText name) 0 fields.seats items fields.start
      let a ← fields.finish s
      if extra.isEmpty then return a
      else throw (.wrongLength items.length "fewer elements in array")
    | j => .error (.wrongType j.found name)
  ofText c :=
    let c := c.skipBlank
    match c.peek? with
    | some '{' => do
      let c ← Scan.openBracket c
      Fields.close Fields.endMembers do
        let other (_ : String) : Reader (Unit → Unit) :=
          ⟨fun _ => .ok id, fun c => (Scan.pass c).map fun (_, c) => (id, c)⟩
        let (s, _, c) ← fields.ofMembersText other (Scan.fuelFor c) true fields.start () c
        let a ← Fields.looseAt c (fields.finish s)
        return (a, c)
    | some '[' => do
      let c ← Scan.openBracket c
      Fields.close Fields.endItems do
        let (s, c) ← Fields.ofItemsText (fields.lengthText name) 0 fields.seats fields.start c
        let a ← Fields.looseAt c (fields.finish s)
        return (a, c)
    | _ => refuse name c

/-- A record that keeps its members under other keys. It is never given as a list. -/
def openRecord (name : String) (fields : Fields (KeyMap Json → α)) : Reader α where
  ofJson
    | .obj members => do
      let (s, rest) ← fields.ofMembers (fun key j rest => KeyMap.insert rest key j) members fields.start []
      let make ← fields.finish s
      return make rest
    | j => .error (.wrongType j.found name)
  ofText c :=
    let c := c.skipBlank
    if c.peek? = some '{' then do
      let c ← Scan.openBracket c
      Fields.close Fields.endMembers do
        let other (key : String) : Reader (KeyMap Json → KeyMap Json) :=
          json.map fun j rest => KeyMap.insert rest key j
        let (s, rest, c) ← fields.ofMembersText other (Scan.fuelFor c) true fields.start [] c
        let make ← Fields.looseAt c (fields.finish s)
        return (make rest, c)
    else refuse name c

end Reader
end WorkflowCanvas
