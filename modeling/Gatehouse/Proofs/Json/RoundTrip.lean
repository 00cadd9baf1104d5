/-
  Gatehouse/Proofs/Json/RoundTrip.lean --- a value is what its text is read as.

  The words of a value take the parser from wanting a value to having that very value,
  with the lists and objects around it as they were.  Inside a list or an object the
  parts that are finished are carried along, the last first.

  Main statement: `Json.parseBytes?_render`.
-/
import Gatehouse.Json.Parser
import Gatehouse.Proofs.Json.Words

set_option autoImplicit false

namespace Gatehouse.Json

section

variable {stack stack₁ : List Frame} {wanted wanted₁ : Wanted} {t : Token} (rest : List Token)

theorem run?_cons :
    run? stack wanted (t :: rest) = match step? stack wanted t with
      | none => none
      | some (stack, wanted) => run? stack wanted rest := by
  cases stack <;> cases wanted <;> rfl

/-- A word that leads on. -/
theorem run?_step (h : step? stack wanted t = some (stack₁, wanted₁)) :
    run? stack wanted (t :: rest) = run? stack₁ wanted₁ rest := by
  rw [run?_cons, h]

end

/-! ## The first part of a list or an object -/

theorem words_head (v : Json) : ∃ t ts, words v = t :: ts ∧ t ≠ .closeList := by
  cases v <;> exact ⟨_, _, rfl, nofun⟩

theorem wordsOfItems_head (v : Json) (items : List Json) :
    ∃ t ts, wordsOfItems (v :: items) = t :: ts ∧ t ≠ .closeList := by
  obtain ⟨t, ts, hwords, hopen⟩ := words_head v
  cases items with
  | nil => exact ⟨t, ts, hwords, hopen⟩
  | cons w items =>
    refine ⟨t, ts ++ .comma :: wordsOfItems (w :: items), ?_, hopen⟩
    have hmore : wordsOfItems (v :: w :: items)
        = words v ++ .comma :: wordsOfItems (w :: items) := rfl
    rw [hmore, hwords, List.cons_append]

/-- A list just opened is read on as one that wants a value, unless it ends at once. -/
theorem run?_valueOrEnd {stack : List Frame} {t : Token} (hopen : t ≠ .closeList)
    (rest : List Token) : run? stack .valueOrEnd (t :: rest) = run? stack .value (t :: rest) := by
  have hstep : step? stack .valueOrEnd t = step? stack .value t := by
    cases t <;> first | rfl | exact absurd rfl hopen
  rw [run?_cons, run?_cons, hstep]

theorem wordsOfMembers_head (m : String × Json) (members : List (String × Json)) :
    ∃ ts, wordsOfMembers (m :: members) = .str m.1 :: ts := by
  cases members with
  | nil => exact ⟨_, rfl⟩
  | cons m₁ members => exact ⟨_, rfl⟩

/-! ## Values -/

mutual

/-- The words of a value build it. -/
theorem run?_words : ∀ v : Json, Fits v → ∀ (stack : List Frame) (rest : List Token),
    run? stack .value (words v ++ rest) = run? stack (.after v) rest
  | .null, _, _, rest | .bool _, _, _, rest | .int _, _, _, rest | .str _, _, _, rest =>
      run?_step rest rfl
  | .arr [], _, _, rest => (run?_step _ rfl).trans (run?_step rest rfl)
  | .arr (v :: items), fits, stack, rest => by
      have hitems := run?_wordsOfItems (v :: items) fits nofun stack [] rest
      obtain ⟨t, ts, hwords, hopen⟩ := wordsOfItems_head v items
      rw [words, List.cons_append, List.append_assoc, List.singleton_append, run?_step _ rfl]
      rw [hwords] at hitems ⊢
      rw [List.cons_append, run?_valueOrEnd hopen]
      exact hitems
  | .obj [], _, _, rest => (run?_step _ rfl).trans (run?_step rest rfl)
  | .obj (m :: members), fits, stack, rest => by
      have hmembers := run?_wordsOfMembers (m :: members) fits nofun stack [] rest
      obtain ⟨ts, hwords⟩ := wordsOfMembers_head m members
      rw [words, List.cons_append, List.append_assoc, List.singleton_append, run?_step _ rfl]
      rw [hwords, List.cons_append, run?_step _ rfl] at hmembers ⊢
      exact hmembers

/-- The words of the items of a list build it behind the items that are done. -/
theorem run?_wordsOfItems : ∀ items : List Json, ItemsFit items → items ≠ [] →
    ∀ (stack : List Frame) (done : List Json) (rest : List Token),
    run? (.list done :: stack) .value (wordsOfItems items ++ .closeList :: rest)
      = run? stack (.after (.arr (done.reverse ++ items))) rest
  | [], _, nonempty, _, _, _ => absurd rfl nonempty
  | [v], fits, _, stack, done, rest => by
      rw [wordsOfItems, run?_words v fits.1, run?_step _ rfl, List.reverse_cons]
  | v :: w :: items, fits, _, stack, done, rest => by
      have hmore : wordsOfItems (v :: w :: items)
          = words v ++ .comma :: wordsOfItems (w :: items) := rfl
      have hitems := run?_wordsOfItems (w :: items) fits.2 nofun stack (v :: done) rest
      rw [hmore, List.append_assoc, run?_words v fits.1, List.cons_append, run?_step _ rfl, hitems,
        List.reverse_cons, List.append_assoc, List.singleton_append]

/-- The words of the members of an object build it behind the members that are done. -/
theorem run?_wordsOfMembers : ∀ members : List (String × Json), MembersFit members →
    members ≠ [] → ∀ (stack : List Frame) (done : List (String × Json)) (rest : List Token),
    run? stack (.key done) (wordsOfMembers members ++ .closeObject :: rest)
      = run? stack (.after (.obj (done.reverse ++ members))) rest
  | [], _, nonempty, _, _, _ => absurd rfl nonempty
  | [(k, v)], fits, _, stack, done, rest => by
      rw [wordsOfMembers, List.cons_append, run?_step _ rfl, List.cons_append, run?_step _ rfl,
        run?_words v fits.1, run?_step _ rfl, List.reverse_cons]
  | (k, v) :: m :: members, fits, _, stack, done, rest => by
      have hmore : wordsOfMembers ((k, v) :: m :: members)
          = .str k :: .colon :: (words v ++ .comma :: wordsOfMembers (m :: members)) := rfl
      have hmembers := run?_wordsOfMembers (m :: members) fits.2 nofun stack ((k, v) :: done) rest
      rw [hmore, List.cons_append, run?_step _ rfl, List.cons_append, run?_step _ rfl,
        List.append_assoc, run?_words v fits.1, List.cons_append, run?_step _ rfl, hmembers,
        List.reverse_cons, List.append_assoc, List.singleton_append]

end

/-! ## Texts -/

/-- The text of a value that fits is read as that value. -/
theorem parseBytes?_render {v : Json} (fits : Fits v) :
    parseBytes? (Utf8.encode (render v)) = some v := by
  have hwords : tokens? (Utf8.encode (render v)) = some (words v) := by
    have hspells := spells_render v fits [] nofun
    rw [List.append_nil] at hspells
    rw [tokens?, hspells, tokensFrom?, Option.map_some, List.append_nil]
  have hvalue := run?_words v fits [] []
  rw [List.append_nil] at hvalue
  rw [parseBytes?, hwords, Option.bind_some, hvalue]
  rfl

end Gatehouse.Json
