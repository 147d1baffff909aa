import TokenAuthority.Proofs.Json.Acceptance

/-!
# Texts that embed nothing

Readers that take an object with the embedding key for an embedded text part from the grammar there and nowhere else. A
text in which that key is not written stands for the same values whether texts can be embedded or not.
-/

namespace TokenAuthority.Json

/-- The embedding key is written nowhere in a text. -/
def EmbedsNothing (text : List Char) : Prop := ∀ name, name <:+: text → ¬SpellsString name embeddingKey

variable {text inner inside : List Char} {embeds : Bool} {depth : Nat} {v : Json} {entries : List Entry}

theorem EmbedsNothing.of_infix (nothing : EmbedsNothing text) (part : inner <:+: text) : EmbedsNothing inner :=
  fun name own => nothing name (own.trans part)

theorem Joined.infix_of_mem {ι : Type} {written : ι → List Char} {items : List ι} {item : ι}
    (joined : Joined written inside items) (mem : item ∈ items) : written item <:+: inside := by
  cases joined with
  | none blank => cases mem
  | some some =>
    obtain ⟨first, others, rfl⟩ := List.exists_cons_of_ne_nil some
    rw [intercalate_map_cons]
    cases mem with
    | head => exact (List.prefix_append _ _).isInfix
    | tail _ mem =>
      obtain ⟨before, after, rfl⟩ := List.append_of_mem mem
      refine ⟨written first ++ ((before.flatMap fun item => ',' :: written item) ++ [',']),
        after.flatMap fun item => ',' :: written item, ?_⟩
      simp

/-- The name and the value of a member stand in the text of its object. -/
theorem Joined.infix_of_entry {e : Entry} (joined : Joined Entry.written inside entries) (mem : e ∈ entries) :
    e.name <:+: inside ∧ e.text <:+: inside := by
  have whole := joined.infix_of_mem mem
  exact ⟨(List.prefix_append e.name _).isInfix.trans whole,
    ((List.suffix_cons ':' e.text).trans (List.suffix_append e.name _)).isInfix.trans whole⟩

theorem infix_between (opening closing : Char) (inside : List Char) : inside <:+: opening :: (inside ++ [closing]) :=
  ⟨[opening], [closing], by simp⟩

theorem SpellsValue.of_embedsNothing (spells : SpellsValue embeds depth text v) (nothing : EmbedsNothing text)
    (embeds' : Bool) : SpellsValue embeds' depth text v := by
  induction spells with
  | null => exact .null
  | yes => exact .yes
  | no => exact .no
  | number number => exact .number number
  | text string => exact .text string
  | array joined all ih =>
    have nothing := nothing.of_infix (infix_between '[' ']' _)
    exact .array joined fun item mem => ih item mem (nothing.of_infix (joined.infix_of_mem mem))
  | object joined keys plain values ih =>
    have nothing := nothing.of_infix (infix_between '{' '}' _)
    refine .object joined keys (fun _ e first same => ?_) fun e mem =>
      ih e mem (nothing.of_infix (joined.infix_of_entry mem).2)
    have mem := List.mem_of_mem_head? first
    exact nothing e.name (joined.infix_of_entry mem).1 (same ▸ keys e mem)
  | @embedded depth name text inner value allowed key string inside ih =>
    exact (nothing name ⟨['{'], ':' :: (text ++ ['}']), by simp⟩ key).elim
  | @padded depth front text back value before after between ih =>
    exact .padded before after (ih (nothing.of_infix ⟨front, back, by simp⟩))

theorem SpellsObject.of_embedsNothing (spells : SpellsObject embeds depth text entries) (nothing : EmbedsNothing text)
    (embeds' : Bool) : SpellsObject embeds' depth text entries := by
  obtain @⟨front, inside, back, entries, before, joined, keys, values, after⟩ := spells
  have nothing : EmbedsNothing inside := nothing.of_infix ⟨front ++ ['{'], '}' :: back, by simp⟩
  exact .of before joined keys
    (fun e mem => (values e mem).of_embedsNothing (nothing.of_infix (joined.infix_of_entry mem).2) embeds') after

/-- A text that embeds nothing is the same object for readers of either kind. -/
theorem EmbedsNothing.spellsObject_iff (nothing : EmbedsNothing text) (embeds embeds' : Bool) :
    SpellsObject embeds depth text entries ↔ SpellsObject embeds' depth text entries :=
  ⟨(·.of_embedsNothing nothing embeds'), (·.of_embedsNothing nothing embeds)⟩

/-- There is no room for the embedding key in a short text. -/
theorem embedsNothing_of_short (short : text.length < embeddingKey.toList.length) : EmbedsNothing text :=
  fun _ part spells => absurd (spells.length_le.trans part.length_le) (Nat.not_le.2 short)

end TokenAuthority.Json
