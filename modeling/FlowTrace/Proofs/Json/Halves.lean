/-
  FlowTrace.Proofs.Json.Halves
  ────────────────────────────────
  **LONE HALVES IN THE TEXT OF A VALUE.**

  A text with a lone half of a surrogate pair cannot be written to a file.  The indented
  text of a value has one exactly if a string of the value has one:

      brackets, commas, line feeds, numbers, names   — ordinary characters
      strings                                        — the escapes touch no half, nor the
                                                       mark in front of one

  In marked form a half is two characters, so a half could come about where two texts meet.
  It does not if ordinary characters stand between them, as they do in JSON text.

  Main result: `Json.hasHalf_renderAt`.
-/
import FlowTrace.Proofs.Json.Indented

namespace FlowTrace
namespace CodePoint

/-! ## §1. Characters in marked form. -/

/-- Is the code point a half? -/
def isHalf : CodePoint → Bool
  | char _ => false
  | half _ => true

/-- Is one of the code points in marked form a half? -/
def halfIn (cs : List Char) : Bool := (decode cs).any isHalf

theorem hasHalf_eq (s : String) : hasHalf s = halfIn s.toList := by
  refine congrArg (List.any (split s)) (funext fun p => ?_)
  cases p <;> rfl

/-- A character that is no part of a marked pair. -/
def IsOrdinary (c : Char) : Prop := c.toNat < 0x100000

instance (c : Char) : Decidable (IsOrdinary c) := inferInstanceAs (Decidable (_ < _))

variable {c d : Char} {cs ds : List Char}

theorem IsOrdinary.ne_mark (h : IsOrdinary c) : c ≠ mark := by
  rintro rfl
  exact absurd h (by decide)

theorem IsOrdinary.ofMarked (h : IsOrdinary c) : ofMarked c = char c := by
  unfold CodePoint.ofMarked
  unfold IsOrdinary at h
  rw [dif_neg (by omega)]

theorem halfIn_cons (h : c ≠ mark) (cs : List Char) : halfIn (c :: cs) = halfIn cs := by
  rw [halfIn, decode_cons_of_ne h]
  rfl

theorem halfIn_pair (d : Char) (cs : List Char) :
    halfIn (mark :: d :: cs) = (isHalf (ofMarked d) || halfIn cs) := by
  rw [halfIn, decode, if_pos rfl]
  rfl

/-- **Where an ordinary character follows, two texts have the halves that each has.** -/
theorem halfIn_append (h : IsOrdinary d) (cs ds : List Char) :
    halfIn (cs ++ d :: ds) = (halfIn cs || halfIn (d :: ds)) := by
  induction cs using decode.induct with
  | case1 => rfl
  | case2 c =>
    by_cases hc : c = mark
    · subst hc
      -- the mark pairs with the ordinary character
      rw [List.singleton_append, halfIn_pair, h.ofMarked, halfIn_cons h.ne_mark]
      rfl
    · rw [List.singleton_append, halfIn_cons hc, halfIn_cons hc]
      rfl
  | case3 c rest ih =>
    rw [List.cons_append, List.cons_append, halfIn_pair, halfIn_pair, ih, Bool.or_assoc]
  | case4 c c' rest hc ih =>
    rw [List.cons_append, halfIn_cons hc, ih, halfIn_cons hc]

theorem halfIn_of_ordinary (h : ∀ c ∈ cs, IsOrdinary c) : halfIn cs = false := by
  induction cs with
  | nil => rfl
  | cons c cs ih =>
    obtain ⟨hc, hcs⟩ := List.forall_mem_cons.mp h
    rw [halfIn_cons hc.ne_mark, ih hcs]

/-! ## §2. Ordinary text. -/

/-- The text has ordinary characters only. -/
def IsPlain (s : String) : Prop := ∀ c ∈ s.toList, IsOrdinary c

instance (s : String) : Decidable (IsPlain s) := List.decidableBAll _ _

variable {s t : String}

theorem IsPlain.hasHalf (h : IsPlain s) : hasHalf s = false := by
  rw [hasHalf_eq, halfIn_of_ordinary h]

theorem IsPlain.append (hs : IsPlain s) (ht : IsPlain t) : IsPlain (s ++ t) := by
  intro c hc
  rw [String.toList_append] at hc
  rcases List.mem_append.mp hc with hc | hc
  · exact hs c hc
  · exact ht c hc

/-- Ordinary text in front brings no half. -/
theorem IsPlain.hasHalf_append (h : IsPlain s) (t : String) :
    CodePoint.hasHalf (s ++ t) = CodePoint.hasHalf t := by
  unfold IsPlain at h
  rw [hasHalf_eq, hasHalf_eq, String.toList_append]
  generalize s.toList = cs at h ⊢
  induction cs with
  | nil => rfl
  | cons c cs ih =>
    obtain ⟨hc, hcs⟩ := List.forall_mem_cons.mp h
    rw [List.cons_append, halfIn_cons hc.ne_mark, ih hcs]

/-- Nor does ordinary text behind. -/
theorem IsPlain.append_hasHalf (h : IsPlain t) (s : String) :
    CodePoint.hasHalf (s ++ t) = CodePoint.hasHalf s := by
  unfold IsPlain at h
  rw [hasHalf_eq, hasHalf_eq, String.toList_append]
  cases ht : t.toList with
  | nil => rw [List.append_nil]
  | cons d ds =>
    rw [ht] at h
    rw [halfIn_append (h d List.mem_cons_self), halfIn_of_ordinary h, Bool.or_false]

/-- Between two texts it keeps their halves apart. -/
theorem IsPlain.hasHalf_between {m : String} (h : IsPlain m) (hne : m ≠ "") (s t : String) :
    CodePoint.hasHalf (s ++ m ++ t) = (CodePoint.hasHalf s || CodePoint.hasHalf t) := by
  rw [String.append_assoc, ← h.hasHalf_append t, hasHalf_eq, hasHalf_eq, hasHalf_eq,
    String.toList_append, String.toList_append]
  unfold IsPlain at h
  cases hm : m.toList with
  | nil => exact absurd (String.toList_eq_nil_iff.mp hm) hne
  | cons d ds =>
    rw [hm] at h
    exact halfIn_append (h d List.mem_cons_self) _ _

end CodePoint

namespace Json

open CodePoint (IsPlain IsOrdinary halfIn mark)

/-! ## §3. Strings. -/

/-- An escaped character stands for itself, or is ordinary and so is all of its escape. -/
theorem encodeChar_cases (c : Char) :
    encodeChar c = [c]
      ∨ IsOrdinary c ∧ ∃ e es, encodeChar c = e :: es ∧ ∀ x ∈ e :: es, IsOrdinary x := by
  have hescape := escaped_encodeChar c
  generalize encodeChar c = cs at hescape ⊢
  cases hescape with
  | itself => exact .inl rfl
  | letter e _ hletter =>
    have hordinary : IsOrdinary c ∧ IsOrdinary e := by
      unfold letterEscape? at hletter
      -- the letters of escapes, one after the other
      repeat' split at hletter
      all_goals cases hletter
      all_goals
        next heq =>
        subst heq
        decide
    exact .inr ⟨hordinary.1, _, _, rfl, by simpa using ⟨by decide, hordinary.2⟩⟩
  | code hcontrol =>
    refine .inr ⟨?_, _, _, rfl, ?_⟩
    · unfold IsOrdinary
      omega
    · have hdigit : ∀ n < 16, IsOrdinary (Nat.digitChar n) := by decide
      rw [hex_four_of_lt _ hcontrol]
      simp only [List.forall_mem_cons]
      refine ⟨by decide, by decide, by decide, by decide, hdigit _ ?_, hdigit _ ?_, nofun⟩
      · omega
      · exact Nat.mod_lt _ (by decide)

/-- **Escaping the characters of a string makes no half and takes none away.** -/
theorem halfIn_flatMap_encodeChar (cs : List Char) :
    halfIn (cs.flatMap encodeChar) = halfIn cs := by
  have hmark : encodeChar mark = [mark] := by decide
  have hplain : ∀ (es rest : List Char), (∀ x ∈ es, IsOrdinary x) →
      halfIn (es ++ rest) = halfIn rest := by
    intro es rest h
    induction es with
    | nil => rfl
    | cons e es ih =>
      obtain ⟨he, hes⟩ := List.forall_mem_cons.mp h
      rw [List.cons_append, CodePoint.halfIn_cons he.ne_mark, ih hes]
  have hsingle : ∀ (c : Char) (rest : List Char), c ≠ mark →
      halfIn (encodeChar c ++ rest) = halfIn rest := by
    intro c rest hc
    rcases encodeChar_cases c with hself | ⟨_, e, es, hes, hall⟩
    · rw [hself, List.singleton_append, CodePoint.halfIn_cons hc]
    · rw [hes, hplain _ _ hall]
  induction cs using CodePoint.decode.induct with
  | case1 => rfl
  | case2 c =>
    rw [List.flatMap_cons, List.flatMap_nil]
    by_cases hc : c = mark
    · rw [hc, hmark]
      rfl
    · rw [hsingle c [] hc, CodePoint.halfIn_cons hc]
  | case3 d rest ih =>
    -- what the mark pairs with is a character that stands for itself, or none that is a half
    rw [List.flatMap_cons, List.flatMap_cons, hmark, List.singleton_append, CodePoint.halfIn_pair]
    rcases encodeChar_cases d with hself | ⟨hd, e, es, hes, hall⟩
    · rw [hself, List.singleton_append, CodePoint.halfIn_pair, ih]
    · obtain ⟨he, hes'⟩ := List.forall_mem_cons.mp hall
      rw [hes, List.cons_append, CodePoint.halfIn_pair, he.ofMarked, hd.ofMarked, hplain _ _ hes',
        ih]
      rfl
  | case4 c d rest hc ih =>
    rw [List.flatMap_cons, hsingle c _ hc, ih, CodePoint.halfIn_cons hc]

theorem hasHalf_quote (s : String) : CodePoint.hasHalf (quote s) = CodePoint.hasHalf s := by
  have htext : quote s = "\x22" ++ String.ofList (s.toList.flatMap encodeChar) ++ "\x22" := by
    apply String.toList_inj.mp
    simp [quote, encodeString]
  have hquote : IsPlain "\x22" := by decide
  rw [htext, hquote.append_hasHalf, hquote.hasHalf_append, CodePoint.hasHalf_eq,
    String.toList_ofList, halfIn_flatMap_encodeChar, CodePoint.hasHalf_eq]

/-! ## §4. Values. -/

mutual

/-- Has a string of the value a half? -/
def hasHalf : Json → Bool
  | str s => CodePoint.hasHalf s
  | arr items => hasHalfItem items
  | obj fields => hasHalfField fields
  | _ => false

/-- Has a string of an item one? -/
def hasHalfItem : List Json → Bool
  | [] => false
  | x :: rest => hasHalf x || hasHalfItem rest

/-- Has a key or a string of a field one? -/
def hasHalfField : List (String × Json) → Bool
  | [] => false
  | (k, v) :: rest => CodePoint.hasHalf k || hasHalf v || hasHalfField rest

end

theorem isPlain_newline (depth : Nat) : IsPlain (newline depth) := by
  intro c hc
  rw [toList_newline] at hc
  rcases List.mem_cons.mp hc with rfl | hc
  · decide
  · rw [List.eq_of_mem_replicate hc]
    decide

theorem isPlain_toString (n : Int) : IsPlain (toString n) := by
  have hdigit : ∀ d : Char, d.isDigit = true → IsOrdinary d := by
    intro d hd
    have := bounds_of_isDigit hd
    unfold IsOrdinary
    omega
  intro c hc
  rw [toList_toString_int] at hc
  unfold intChars at hc
  split at hc
  · rcases List.mem_cons.mp hc with rfl | hc
    · decide
    · exact hdigit c (isDigit_of_mem_digits hc)
  · exact hdigit c (isDigit_of_mem_digits hc)

/-- Brackets around a text bring no half. -/
theorem hasHalf_bracketed {left right : String} (hleft : IsPlain left) (hright : IsPlain right)
    (depth : Nat) (s : String) :
    CodePoint.hasHalf (left ++ newline (depth + 1) ++ s ++ newline depth ++ right)
      = CodePoint.hasHalf s := by
  rw [hright.append_hasHalf, (isPlain_newline depth).append_hasHalf,
    (hleft.append (isPlain_newline _)).hasHalf_append]

/-- A comma and a new line keep two texts apart. -/
theorem hasHalf_comma (depth : Nat) (s t : String) :
    CodePoint.hasHalf (s ++ "," ++ newline depth ++ t)
      = (CodePoint.hasHalf s || CodePoint.hasHalf t) := by
  have hcomma : IsPlain ("," ++ newline depth) :=
    .append (by decide) (isPlain_newline depth)
  have htext : s ++ "," ++ newline depth ++ t = s ++ ("," ++ newline depth) ++ t := by
    simp only [String.append_assoc]
  rw [htext, hcomma.hasHalf_between (by simp)]

mutual

/-- **The indented text of a value has a half exactly if a string of the value has one.** -/
theorem hasHalf_renderAt : ∀ (v : Json) (depth : Nat), v.IsExact →
    CodePoint.hasHalf (renderAt depth v) = v.hasHalf
  | null, depth => fun _ => by
    rw [renderAt]
    rfl
  | bool b, depth => fun _ => by
    rw [renderAt]
    cases b <;> rfl
  | int n, depth => fun _ => by
    rw [renderAt]
    exact (isPlain_toString n).hasHalf
  | float _, _ => fun hexact => hexact.elim
  | str s, depth => fun _ => by
    rw [renderAt]
    exact hasHalf_quote s
  | arr [], depth => fun _ => by
    rw [renderAt]
    rfl
  | arr (x :: items), depth => fun hexact => by
    rw [renderAt, hasHalf_bracketed (by decide) (by decide)]
    exact hasHalf_renderItemsAt (x :: items) (depth + 1) hexact
  | obj [], depth => fun _ => by
    rw [renderAt]
    rfl
  | obj (f :: fields), depth => fun hexact => by
    rw [renderAt, hasHalf_bracketed (by decide) (by decide)]
    exact hasHalf_renderFieldsAt (f :: fields) (depth + 1) hexact.2

theorem hasHalf_renderItemsAt : ∀ (items : List Json) (depth : Nat), ItemsExact items →
    CodePoint.hasHalf (renderItemsAt depth items) = hasHalfItem items
  | [], depth => fun _ => by
    rw [renderItemsAt]
    rfl
  | [x], depth => fun hexact => by
    rw [renderItemsAt, hasHalf_renderAt x depth hexact.1]
    simp [hasHalfItem]
  | x :: y :: rest, depth => fun hexact => by
    rw [renderItemsAt, hasHalf_comma, hasHalf_renderAt x depth hexact.1,
      hasHalf_renderItemsAt (y :: rest) depth hexact.2]
    rfl

theorem hasHalf_renderFieldsAt : ∀ (fields : List (String × Json)) (depth : Nat),
    FieldsExact fields → CodePoint.hasHalf (renderFieldsAt depth fields) = hasHalfField fields
  | [], depth => fun _ => by
    rw [renderFieldsAt]
    rfl
  | [(k, v)], depth => fun hexact => by
    have hcolon : IsPlain ": " := by decide
    rw [renderFieldsAt, hcolon.hasHalf_between (by decide), hasHalf_quote,
      hasHalf_renderAt v depth hexact.1]
    simp [hasHalfField]
  | (k, v) :: f :: rest, depth => fun hexact => by
    have hcolon : IsPlain ": " := by decide
    rw [renderFieldsAt, hasHalf_comma, hcolon.hasHalf_between (by decide), hasHalf_quote,
      hasHalf_renderAt v depth hexact.1, hasHalf_renderFieldsAt (f :: rest) depth hexact.2]
    rfl

end

end Json
end FlowTrace
