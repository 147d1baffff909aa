import TokenAuthority.Proofs.Http.Requests
import TokenAuthority.Proofs.Text.Blank
import TokenAuthority.Proofs.Text.Utf8

/-!
# The bearer of a request

The first authorization header of a request names the bearer. All of its bytes have to show, it has to open with the
scheme and one space, and the token is what stands behind them without the blanks around it. `bearer?_eq_some_iff` says
that this is the token that is found.
-/

namespace TokenAuthority.Http

open Text

/-- A visible character of one byte, a space or a tab. -/
def Shows (b : UInt8) : Prop := b = 9 ∨ 32 ≤ b ∧ b ≤ 126

/-- The value of the first header with a name. -/
def Request.FirstHeader (r : Request) (name : String) (value : List UInt8) : Prop :=
  ∃ before after, r.headers = before ++ (name, value) :: after ∧ name ∉ before.map Prod.fst

/-- The headers of a request name a bearer. -/
inductive Bears (r : Request) (access : String) : Prop where
  | of {value : List UInt8} {text : List Char} (first : r.FirstHeader "authorization" value)
      (shows : ∀ b ∈ value, Shows b) (written : value = Utf8.encode ("Bearer ".toList ++ text))
      (surrounds : Surrounds text access.toList) (some : access ≠ "")

variable {r : Request} {name access : String} {value : List UInt8} {text : List Char}

theorem lookup_headers_eq_some_iff : r.headers.lookup name = some value ↔ r.FirstHeader name value := by
  rw [List.lookup_eq_some_iff]
  constructor
  · rintro ⟨before, after, split, earlier⟩
    refine ⟨before, after, split, fun mem => ?_⟩
    obtain ⟨header, front, rfl⟩ := List.mem_map.1 mem
    simpa using earlier header front
  · rintro ⟨before, after, split, absent⟩
    refine ⟨before, after, split, fun header front => bne_iff_ne.2 ?_⟩
    rintro rfl
    exact absent (List.mem_map_of_mem front)

theorem shows_iff {b : UInt8} : (b == 9 || (decide (32 ≤ b) && decide (b < 127))) = true ↔ Shows b := by
  have most : b < 127 ↔ b ≤ 126 := by
    rw [UInt8.lt_iff_toNat_lt, UInt8.le_iff_toNat_le]
    exact Nat.lt_succ_iff
  simp only [Shows, Bool.or_eq_true, beq_iff_eq, Bool.and_eq_true, decide_eq_true_eq, most]

theorem Shows.lt {b : UInt8} (shows : Shows b) : b.toNat < 0x80 := by
  rcases shows with rfl | ⟨-, most⟩
  · decide
  · have := UInt8.le_iff_toNat_le.1 most
    simp only [UInt8.reduceToNat] at this
    omega

theorem encode_map_ofNat (shows : ∀ b ∈ value, Shows b) :
    Utf8.encode (value.map fun b => Char.ofNat b.toNat) = value := by
  induction value with
  | nil => rfl
  | cons b value ih =>
    have small := (shows b List.mem_cons_self).lt
    have rest := ih fun other mem => shows other (List.mem_cons_of_mem b mem)
    rw [Utf8.encode] at rest ⊢
    rw [List.map_cons, List.flatMap_cons, rest, Utf8.encodeChar_ofNat (by omega), if_pos (by omega), UInt8.ofNat_toNat]
    rfl

theorem header?_eq_some_iff : r.header? name = some text ↔
    ∃ value, r.FirstHeader name value ∧ (∀ b ∈ value, Shows b) ∧ value = Utf8.encode text := by
  unfold Request.header?
  constructor
  · intro found
    cases look : r.headers.lookup name with
    | none =>
      rw [look] at found
      cases found
    | some value =>
      rw [look] at found
      dsimp only at found
      split at found
      · rename_i all
        have shows : ∀ b ∈ value, Shows b := fun b mem => shows_iff.1 (List.all_eq_true.1 all b mem)
        obtain rfl := Option.some.inj found
        exact ⟨value, lookup_headers_eq_some_iff.1 look, shows, (encode_map_ofNat shows).symm⟩
      · cases found
  · rintro ⟨value, first, shows, written⟩
    have all : (value.all fun b => b == 9 || (decide (32 ≤ b) && decide (b < 127))) = true :=
      List.all_eq_true.2 fun b mem => shows_iff.2 (shows b mem)
    have same : (value.map fun b => Char.ofNat b.toNat) = text := by
      rw [← Utf8.lossy_encode (value.map _), encode_map_ofNat shows, written, Utf8.lossy_encode]
    rw [lookup_headers_eq_some_iff.2 first]
    dsimp only
    rw [if_pos all, same]

theorem bearer?_eq_some_iff : bearer? r = some access ↔ Bears r access := by
  unfold bearer?
  constructor
  · intro found
    cases look : r.header? "authorization" with
    | none =>
      rw [look] at found
      cases found
    | some text =>
      rw [look] at found
      dsimp only [Option.bind_eq_bind, Option.bind_some] at found
      split at found
      · rename_i opens
        obtain ⟨rest, rfl⟩ := List.isPrefixOf_iff_prefix.1 opens
        rw [List.drop_left] at found
        split at found
        · cases found
        · rename_i some
          obtain rfl := Option.some.inj found
          obtain ⟨value, first, shows, written⟩ := header?_eq_some_iff.1 look
          refine .of first shows written ?_ (by simpa using some)
          rw [String.toList_ofList]
          exact surrounds_trimmed rest
      · cases found
  · rintro ⟨first, shows, written, surrounds, some⟩
    rename_i value text
    have look := header?_eq_some_iff.2 ⟨value, first, shows, written⟩
    have opens : ("Bearer ".toList.isPrefixOf ("Bearer ".toList ++ text)) = true :=
      List.isPrefixOf_iff_prefix.2 (List.prefix_append _ _)
    have trims := trimmed_eq_iff.2 surrounds
    rw [look]
    dsimp only [Option.bind_eq_bind, Option.bind_some]
    rw [if_pos opens, List.drop_left, trims, if_neg (by simpa using some), String.ofList_toList]

theorem bearer?_eq_none_iff : bearer? r = none ↔ ∀ access, ¬Bears r access := by
  simp only [Option.eq_none_iff_forall_ne_some, ne_eq, bearer?_eq_some_iff]

end TokenAuthority.Http
