/-!
Reading UTF-8 byte by byte. An ill-formed stretch is cut where the first byte can no longer continue
a character, and counts as one fault; `lossy` writes U+FFFD for it, `strict?` refuses it, and
`fault?` says where the first one is.
-/

namespace TokenAuthority.Text.Utf8

/-- Between two bytes: nothing is pending, or a character with `value` so far still needs
`missing` bytes, the next of which lies between `low` and `high`. -/
inductive State where
  | start
  | within (value missing : Nat) (low high : UInt8)

/-- The state after the first byte of a character, unless that byte is no first byte or is the
whole character. -/
def State.open? (b : UInt8) : Option State :=
  let tail (bits missing : Nat) (low high : UInt8) :=
    some (State.within (b.toNat % bits) missing low high)
  if 0xC2 ≤ b && b ≤ 0xDF then tail 32 1 0x80 0xBF
  else if b = 0xE0 then tail 16 2 0xA0 0xBF
  else if b = 0xED then tail 16 2 0x80 0x9F
  else if 0xE1 ≤ b && b ≤ 0xEF then tail 16 2 0x80 0xBF
  else if b = 0xF0 then tail 8 3 0x90 0xBF
  else if 0xF1 ≤ b && b ≤ 0xF3 then tail 8 3 0x80 0xBF
  else if b = 0xF4 then tail 8 3 0x80 0x8F
  else none

/-- Characters read so far, the last one first, with `none` for an ill-formed stretch. -/
structure Progress where
  state : State
  reversed : List (Option Char)

def Progress.first (reversed : List (Option Char)) (b : UInt8) : Progress :=
  if b < 0x80 then ⟨.start, some (Char.ofNat b.toNat) :: reversed⟩
  else
    match State.open? b with
    | some state => ⟨state, reversed⟩
    | none => ⟨.start, none :: reversed⟩

def Progress.push (p : Progress) (b : UInt8) : Progress :=
  match p.state with
  | .start => .first p.reversed b
  | .within value missing low high =>
    if low ≤ b && b ≤ high then
      let value := value * 64 + b.toNat % 64
      if missing ≤ 1 then ⟨.start, some (Char.ofNat value) :: p.reversed⟩
      else ⟨.within value (missing - 1) 0x80 0xBF, p.reversed⟩
    else .first (none :: p.reversed) b

def read (bytes : List UInt8) : List (Option Char) :=
  let p := bytes.foldl Progress.push ⟨.start, []⟩
  match p.state with
  | .start => p.reversed.reverse
  | .within .. => (none :: p.reversed).reverse

/-- The text of a byte string, with U+FFFD for each ill-formed stretch. -/
def lossy (bytes : List UInt8) : List Char := (read bytes).map (·.getD '\uFFFD')

def strict? (bytes : List UInt8) : Option (List Char) :=
  let cs := read bytes
  if cs.all Option.isSome then some (cs.filterMap id) else none

/-- Where a byte string stops being well-formed, and the length of the ill-formed stretch, unless it
is the end of the bytes that cuts a character off. -/
structure Fault where
  index : Nat
  length : Option Nat
deriving DecidableEq

def Fault.message : Fault → String
  | ⟨index, some length⟩ =>
    "invalid utf-8 sequence of " ++ toString length ++ " bytes from index " ++ toString index
  | ⟨index, none⟩ => "incomplete utf-8 byte sequence from index " ++ toString index

/-- The first fault of the bytes that follow `index` others, `pending` of which belong to a
character that is not complete. -/
def faultFrom (index pending : Nat) : State → List UInt8 → Option Fault
  | .start, [] => none
  | .within .., [] => some ⟨index - pending, none⟩
  | .start, b :: rest =>
    if b < 0x80 then faultFrom (index + 1) 0 .start rest
    else
      match State.open? b with
      | some state => faultFrom (index + 1) 1 state rest
      | none => some ⟨index, some 1⟩
  | .within value missing low high, b :: rest =>
    if low ≤ b && b ≤ high then
      if missing ≤ 1 then faultFrom (index + 1) 0 .start rest
      else
        let value := value * 64 + b.toNat % 64
        faultFrom (index + 1) (pending + 1) (.within value (missing - 1) 0x80 0xBF) rest
    else some ⟨index - pending, some pending⟩

def fault? (bytes : List UInt8) : Option Fault := faultFrom 0 0 .start bytes

def Progress.isSound (p : Progress) : Bool :=
  (match p.state with
    | .start => true
    | .within .. => false) && p.reversed.all Option.isSome

theorem all_of_all_push {p : Progress} {b : UInt8}
    (h : (p.push b).reversed.all Option.isSome) : p.reversed.all Option.isSome := by
  grind [Progress.push, Progress.first]

theorem all_of_isSound_foldl {bytes : List UInt8} {p : Progress}
    (h : (bytes.foldl Progress.push p).isSound) : p.reversed.all Option.isSome := by
  induction bytes generalizing p with
  | nil => simp_all [Progress.isSound]
  | cons b rest ih => exact all_of_all_push (ih h)

theorem faultFrom_eq_none_iff (bytes : List UInt8) (index pending : Nat) (p : Progress)
    (h : p.reversed.all Option.isSome) :
    faultFrom index pending p.state bytes = none ↔ (bytes.foldl Progress.push p).isSound := by
  induction bytes generalizing index pending p with
  | nil => cases hp : p.state <;> simp_all [faultFrom, Progress.isSound]
  | cons b rest ih =>
    have broken (q : Progress) (hq : none ∈ q.reversed) :
        ¬ (rest.foldl Progress.push q).isSound := fun hs => by
      simpa using List.all_eq_true.1 (all_of_isSound_foldl hs) none hq
    rw [List.foldl_cons]
    cases hp : p.state with
    | start =>
      simp only [faultFrom, Progress.push, hp, Progress.first]
      split
      · exact ih _ _ ⟨.start, _⟩ (by simpa using h)
      · cases State.open? b with
        | some state => exact ih _ _ ⟨state, _⟩ h
        | none => simpa using broken ⟨.start, none :: p.reversed⟩ (by simp)
    | within value missing low high =>
      simp only [faultFrom, Progress.push, hp]
      split
      · split
        · exact ih _ _ ⟨.start, _⟩ (by simpa using h)
        · exact ih _ _ ⟨.within .., _⟩ h
      · have := broken (.first (none :: p.reversed) b) (by grind [Progress.first])
        simpa using this

theorem fault?_eq_none_iff (bytes : List UInt8) : fault? bytes = none ↔ (strict? bytes).isSome := by
  have := faultFrom_eq_none_iff bytes 0 0 ⟨.start, []⟩ rfl
  rw [fault?, this, strict?]
  grind [read, Progress.isSound]

def encode (text : List Char) : List UInt8 := text.flatMap String.utf8EncodeChar

def size (text : List Char) : Nat := text.foldl (fun n c => n + c.utf8Size) 0

end TokenAuthority.Text.Utf8
