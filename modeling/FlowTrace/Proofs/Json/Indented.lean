/-
  FlowTrace.Proofs.Json.Indented
  ────────────────────────────────
  **INDENTED TEXT IS READ BACK.**

  Reading the indented text of a value gives the value back, if

      doubles  — it has none (their text is shortest, not exact)
      keys     — every object has each key once
      numbers  — no whole number has more digits than are read
      depth    — it lies no deeper than the reader goes

  The reader takes the text of a value off the front and stops behind it.  What
  stands behind is nothing, a comma or a new line, and none of these can be
  part of a number.
-/
import FlowTrace.Proofs.Json.Fields
import FlowTrace.Proofs.Json.StringToken
import FlowTrace.Proofs.Number.Decimal
import FlowTrace.Proofs.Outcome

namespace FlowTrace
namespace Json

/-! ## §1. Whole numbers. -/

/-- What may stand behind a value: nothing, a comma or a new line. -/
def Stops (rest : List Char) : Prop := ∀ c, rest.head? = some c → c = ',' ∨ c = '\n'

theorem stops_comma (rest : List Char) : Stops (',' :: rest) :=
  fun _ h => Or.inl (Option.some.inj h).symm

theorem stops_newline (rest : List Char) : Stops ('\n' :: rest) :=
  fun _ h => Or.inr (Option.some.inj h).symm

/-- A test that a comma and a new line fail stops there. -/
theorem takeWhile_of_stops {p : Char → Bool} (hcomma : p ',' = false) (hnewline : p '\n' = false)
    {rest : List Char} (h : Stops rest) : rest.takeWhile p = [] ∧ rest.dropWhile p = rest := by
  cases rest with
  | nil => exact ⟨rfl, rfl⟩
  | cons c rest =>
    have hc : p c = false := by rcases h c rfl with rfl | rfl <;> assumption
    exact ⟨List.takeWhile_cons_of_neg (by simp [hc]), List.dropWhile_cons_of_neg (by simp [hc])⟩

theorem isAscii_of_mem_digits {n : Nat} {c : Char} (h : c ∈ Nat.toDigits 10 n) :
    DecimalDigit.isAscii c = true := by
  have := bounds_of_isDigit (isDigit_of_mem_digits h)
  simpa [DecimalDigit.isAscii] using this

/-- The digits of a number end where it stops. -/
theorem digits_toDigits (n : Nat) {rest : List Char} (h : Stops rest) :
    digits (Nat.toDigits 10 n ++ rest) = Nat.toDigits 10 n
      ∧ afterDigits (Nat.toDigits 10 n ++ rest) = rest := by
  have hall : ∀ c ∈ Nat.toDigits 10 n, DecimalDigit.isAscii c = true :=
    fun c hc => isAscii_of_mem_digits hc
  obtain ⟨htake, hdrop⟩ := takeWhile_of_stops (p := DecimalDigit.isAscii) (by decide) (by decide) h
  rw [digits, afterDigits, List.takeWhile_append_of_pos hall, List.dropWhile_append_of_pos hall,
    htake, hdrop, List.append_nil]
  exact ⟨rfl, rfl⟩

theorem asciiValue_toDigits (n : Nat) : Numeral.asciiValue (Nat.toDigits 10 n) = n := by
  have hvalue : ∀ (cs : List Char) (acc : Nat),
      cs.foldl (fun n c => n * 10 + (c.toNat - 48)) acc = Nat.ofDigitChars 10 cs acc := by
    intro cs
    induction cs with
    | nil => intro acc; rfl
    | cons c cs ih =>
      intro acc
      rw [List.foldl_cons, ih, Nat.ofDigitChars_cons, Nat.mul_comm]
      rfl
  rw [Numeral.asciiValue, hvalue, Nat.ofDigitChars_ten_toDigits]

/-- Only zero begins with the digit zero. -/
theorem head_toDigits {n : Nat} (hn : n ≠ 0) : ∃ d ds, Nat.toDigits 10 n = d :: ds ∧ d ≠ '0' := by
  induction n using Nat.strongRecOn with
  | _ n ih =>
    by_cases hlt : n < 10
    · have hdigit : ∀ k < 10, k ≠ 0 → Nat.digitChar k ≠ '0' := by decide
      exact ⟨_, [], Nat.toDigits_of_lt_base hlt, hdigit n hlt hn⟩
    · obtain ⟨d, ds, hds, hd⟩ := ih (n / 10) (by omega) (by omega)
      refine ⟨d, ds ++ [(n % 10).digitChar], ?_, hd⟩
      rw [Nat.toDigits_of_base_le (by decide) (by omega), hds, List.cons_append]

/-- The whole part of a number is its digits. -/
theorem wholePart?_toDigits (n : Nat) {rest : List Char} (h : Stops rest) :
    wholePart? (Nat.toDigits 10 n ++ rest) = some (Nat.toDigits 10 n, rest) := by
  by_cases hn : n = 0
  · subst hn
    rfl
  · obtain ⟨d, ds, hds, hd⟩ := head_toDigits hn
    obtain ⟨hdigits, hafter⟩ := digits_toDigits n h
    have hempty : (Nat.toDigits 10 n).isEmpty = false := by simp
    rw [wholePart?.eq_def]
    split
    · next heq =>
      rw [hds, List.cons_append] at heq
      exact absurd (List.cons.inj heq).1 hd
    · rw [hdigits, hafter, hempty]
      rfl

theorem fraction_of_stops {rest : List Char} (h : Stops rest) : fraction rest = ([], rest) := by
  unfold fraction
  split
  · rcases h '.' rfl with h | h <;> exact absurd h (by decide)
  · rfl

theorem exponent?_of_stops {rest : List Char} (h : Stops rest) : exponent? rest = none := by
  unfold exponent?
  split
  · next c rest =>
    rw [if_neg]
    rcases h c rfl with rfl | rfl <;> decide
  · rfl

/-- **A written number is read back**, sign and all. -/
theorem readNumber?_intChars {n : Int} (hn : Numeral.isOverlong n = false) {rest : List Char}
    (h : Stops rest) : readNumber? (intChars n ++ rest) = some (.ok (.int n), rest) := by
  have hshort := Numeral.length_digits_le_iff.mpr hn
  have hwhole : ∀ negative : Bool, (if negative then -(n.natAbs : Int) else n.natAbs) = n →
      wholeNumber negative (Nat.toDigits 10 n.natAbs) = .ok (.int n) := by
    intro negative hvalue
    rw [wholeNumber, if_neg (by omega), asciiValue_toDigits]
    exact congrArg (fun k => Except.ok (int k)) hvalue
  have hread := wholePart?_toDigits n.natAbs h
  unfold intChars readNumber?
  split
  · next hneg =>
    have hvalue := hwhole true (show -(n.natAbs : Int) = n by omega)
    simp [hread, fraction_of_stops h, exponent?_of_stops h, hvalue]
  · next hneg =>
    have hvalue := hwhole false (show (n.natAbs : Int) = n by omega)
    -- no digit is mistaken for a sign
    have hsign : ((Nat.toDigits 10 n.natAbs ++ rest).head? == some '-') = false := by
      obtain ⟨d, ds, hds⟩ :=
        List.exists_cons_of_ne_nil (Nat.toDigits_ne_nil (n := n.natAbs) (b := 10))
      rw [hds, List.cons_append, List.head?_cons, beq_eq_false_iff_ne]
      intro hd
      have hdigit := isDigit_of_mem_digits (hds ▸ List.mem_cons_self)
      rw [Option.some.inj hd] at hdigit
      cases hdigit
    simp only [hsign, Bool.false_eq_true, if_false, hread]
    simp [fraction_of_stops h, exponent?_of_stops h, hvalue]

/-- A number is no name. -/
theorem names_intChars (n : Int) (rest : List Char) :
    names.findSome? (fun e => (after? e.1.toList (intChars n ++ rest)).map (fun r => (e.2, r)))
      = none := by
  -- no name begins as a number does
  have hhead : ∀ (c : Char) (cs : List Char), c.isDigit = true →
      (∀ e ∈ names, after? e.1.toList (c :: cs) = none)
        ∧ (∀ e ∈ names, after? e.1.toList ('-' :: c :: cs) = none) := by
    intro c cs hc
    have hne : ∀ x : Char, x.isDigit = false → x ≠ c := by
      rintro x hx rfl
      rw [hc] at hx
      cases hx
    constructor
    · intro e he
      simp only [names, List.mem_cons, List.not_mem_nil, or_false] at he
      rcases he with rfl | rfl | rfl | rfl | rfl | rfl
      all_goals exact if_neg (hne _ (by decide))
    · intro e he
      simp only [names, List.mem_cons, List.not_mem_nil, or_false] at he
      rcases he with rfl | rfl | rfl | rfl | rfl | rfl
      · rfl
      · rfl
      · rfl
      · rfl
      · rfl
      · exact if_neg (hne 'I' (by decide))
  obtain ⟨d, ds, hds⟩ := List.exists_cons_of_ne_nil (Nat.toDigits_ne_nil (n := n.natAbs) (b := 10))
  have hd : d.isDigit = true := isDigit_of_mem_digits (hds ▸ List.mem_cons_self)
  rw [List.findSome?_eq_none_iff]
  intro e he
  rw [Option.map_eq_none_iff]
  unfold intChars
  rw [hds]
  split
  · exact (hhead d (ds ++ rest) hd).2 e he
  · exact (hhead d (ds ++ rest) hd).1 e he

theorem readAtom_intChars {n : Int} (hn : Numeral.isOverlong n = false) {rest : List Char}
    (h : Stops rest) : readAtom (intChars n ++ rest) = .ok (.int n, rest) := by
  rw [readAtom, names_intChars, readNumber?_intChars hn h]

/-! ## §2. White space and strings. -/

/-- White space in front of a character that is none is skipped. -/
theorem skipSpace_append {gap : List Char} (hgap : ∀ x ∈ gap, isSpace x = true) {c : Char}
    (hc : isSpace c = false) (rest : List Char) : skipSpace (gap ++ c :: rest) = c :: rest := by
  rw [skipSpace, List.dropWhile_append_of_pos hgap, List.dropWhile_cons_of_neg (by simp [hc])]

theorem skipSpace_cons {c : Char} (hc : isSpace c = false) (rest : List Char) :
    skipSpace (c :: rest) = c :: rest := by
  rw [skipSpace, List.dropWhile_cons_of_neg (by simp [hc])]

theorem toList_newline (depth : Nat) :
    (newline depth).toList = '\n' :: List.replicate (2 * depth) ' ' := by
  simp [newline]

theorem isSpace_of_mem_newline {depth : Nat} : ∀ x ∈ (newline depth).toList, isSpace x = true := by
  intro x hx
  rw [toList_newline] at hx
  rcases List.mem_cons.mp hx with rfl | hx
  · rfl
  · rw [List.eq_of_mem_replicate hx]
    rfl

/-- A new line and what stands behind it. -/
theorem stops_newline_append (depth : Nat) (rest : List Char) :
    Stops ((newline depth).toList ++ rest) := by
  rw [toList_newline, List.cons_append]
  exact stops_newline _

/-- A string token behind its opening quote is read back. -/
theorem readString_flatMap (cs rest : List Char) :
    readString (cs.flatMap encodeChar ++ '\x22' :: rest) = .ok (cs, rest) := by
  apply readStringBody_flatMap
  have := length_le_flatMap_encodeChar cs
  rw [List.length_append, List.length_cons]
  omega

theorem toList_quote (s : String) (rest : List Char) :
    (quote s).toList ++ rest = '\x22' :: (s.toList.flatMap encodeChar ++ '\x22' :: rest) := by
  simp [quote, encodeString]

/-! ## §3. Objects. -/

mutual

/-- The value holds no doubles, and its objects have each key once. -/
def IsExact : Json → Prop
  | float _ => False
  | arr items => ItemsExact items
  | obj fields => (Fields.keys fields).Nodup ∧ FieldsExact fields
  | _ => True

/-- So do all items. -/
def ItemsExact : List Json → Prop
  | [] => True
  | x :: rest => IsExact x ∧ ItemsExact rest

/-- So do all fields. -/
def FieldsExact : List (String × Json) → Prop
  | [] => True
  | (_, v) :: rest => IsExact v ∧ FieldsExact rest

end

/-! ## §4. Values. -/

/-- The character may begin the text of a value: it is neither white space nor a
closing bracket nor a byte order mark. -/
def Begins (c : Char) : Prop := isSpace c = false ∧ c ≠ ']' ∧ c ≠ Char.ofNat 0xfeff

instance (c : Char) : Decidable (Begins c) := inferInstanceAs (Decidable (_ ∧ _))

theorem begins_of_isDigit {d : Char} (hd : d.isDigit = true) : Begins d := by
  have hne : ∀ x : Char, x.isDigit = false → d ≠ x := by
    rintro x hx rfl
    rw [hd] at hx
    cases hx
  refine ⟨?_, hne _ (by decide), hne _ (by decide)⟩
  simp [isSpace, hne ' ' (by decide), hne '\t' (by decide), hne '\n' (by decide),
    hne '\r' (by decide)]

theorem exists_head_renderAt {v : Json} (h : v.IsExact) (depth : Nat) :
    ∃ c cs, (renderAt depth v).toList = c :: cs ∧ Begins c := by
  cases v with
  | null => exact ⟨'n', ['u', 'l', 'l'], by rw [renderAt]; rfl, by decide⟩
  | bool b =>
    cases b with
    | true => exact ⟨'t', ['r', 'u', 'e'], by rw [renderAt]; rfl, by decide⟩
    | false => exact ⟨'f', ['a', 'l', 's', 'e'], by rw [renderAt]; rfl, by decide⟩
  | int n =>
    -- a number begins with its sign or with a digit
    obtain ⟨d, ds, hds⟩ :=
      List.exists_cons_of_ne_nil (Nat.toDigits_ne_nil (n := n.natAbs) (b := 10))
    have hd : Begins d := begins_of_isDigit (isDigit_of_mem_digits (hds ▸ List.mem_cons_self))
    rw [renderAt, toList_toString_int, intChars, hds]
    split
    · exact ⟨'-', _, rfl, by decide⟩
    · exact ⟨d, ds, rfl, hd⟩
  | float x => exact h.elim
  | str s => exact ⟨'\x22', _, by rw [renderAt, quote, String.toList_ofList]; rfl, by decide⟩
  | arr items =>
    cases items with
    | nil => exact ⟨'[', [']'], by rw [renderAt]; rfl, by decide⟩
    | cons x rest => exact ⟨'[', _, by simp [renderAt]; rfl, by decide⟩
  | obj fields =>
    cases fields with
    | nil => exact ⟨'\x7b', ['\x7d'], by rw [renderAt]; rfl, by decide⟩
    | cons f rest => exact ⟨'\x7b', _, by simp [renderAt]; rfl, by decide⟩

/-- What begins neither a string nor a list nor an object is a name or a number. -/
theorem readValue_atom {room fuel : Nat} {c : Char} (hquote : c ≠ '\x22') (hlist : c ≠ '[')
    (hobject : c ≠ '\x7b') (cs : List Char) :
    readValue room (fuel + 1) (c :: cs) = readAtom (c :: cs) := by
  unfold readValue
  rw [if_neg hquote, if_neg (not_or.mpr ⟨hlist, hobject⟩)]

theorem readValue_int {room fuel : Nat} {n : Int} (hn : Numeral.isOverlong n = false)
    {rest : List Char} (h : Stops rest) :
    readValue room (fuel + 1) ((toString n).toList ++ rest) = .ok (.int n, rest) := by
  have hne : ∀ d : Char, d.isDigit = true → d ≠ '\x22' ∧ d ≠ '[' ∧ d ≠ '\x7b' := by
    intro d hd
    refine ⟨?_, ?_, ?_⟩ <;> (rintro rfl; cases hd)
  have hatom := readAtom_intChars hn h
  obtain ⟨d, ds, hds⟩ := List.exists_cons_of_ne_nil (Nat.toDigits_ne_nil (n := n.natAbs) (b := 10))
  obtain ⟨hquote, hlist, hobject⟩ := hne d (isDigit_of_mem_digits (hds ▸ List.mem_cons_self))
  rw [toList_toString_int]
  unfold intChars at hatom ⊢
  rw [hds] at hatom ⊢
  split at hatom
  · next hneg =>
    rw [if_pos hneg]
    exact (readValue_atom (by decide) (by decide) (by decide) _).trans hatom
  · next hneg =>
    rw [if_neg hneg]
    exact (readValue_atom hquote hlist hobject _).trans hatom

theorem readValue_quote (room fuel : Nat) (s : String) (rest : List Char) :
    readValue room (fuel + 1) ((quote s).toList ++ rest) = .ok (.str s, rest) := by
  rw [toList_quote]
  unfold readValue
  rw [if_pos rfl, readString_flatMap]
  show Except.ok (str (String.ofList s.toList), rest) = _
  rw [String.ofList_toList]

/-- A list that has items: they begin behind the bracket and white space. -/
theorem readValue_list {room fuel : Nat} {gap : List Char} (hgap : ∀ x ∈ gap, isSpace x = true)
    {c : Char} (hc : isSpace c = false) (hclose : c ≠ ']') (cs : List Char) :
    readValue (room + 1) (fuel + 1) ('[' :: (gap ++ c :: cs))
      = (readItems room fuel (c :: cs)).map (fun r => (arr r.1, r.2)) := by
  rw [readValue, if_neg (by decide), if_pos (Or.inl rfl)]
  simp only [if_true, skipSpace_append hgap hc]
  split
  · next heq => exact absurd (List.cons.inj heq).1 hclose
  · rfl

/-- An object that has fields: they begin behind the brace and white space. -/
theorem readValue_object {room fuel : Nat} {gap : List Char} (hgap : ∀ x ∈ gap, isSpace x = true)
    (cs : List Char) :
    readValue (room + 1) (fuel + 1) ('\x7b' :: (gap ++ '\x22' :: cs))
      = (readFields room fuel ('\x22' :: cs)).map (fun r => (obj (Fields.ofList r.1), r.2)) := by
  have hquote : isSpace '\x22' = false := by decide
  rw [readValue, if_neg (by decide), if_pos (Or.inr rfl)]
  simp only [if_neg (show ('\x7b' : Char) ≠ '[' by decide), skipSpace_append hgap hquote]
  rfl

theorem exists_head_renderItemsAt {x : Json} (h : x.IsExact) (depth : Nat) (rest : List Json) :
    ∃ c cs, (renderItemsAt depth (x :: rest)).toList = c :: cs ∧ Begins c := by
  obtain ⟨c, cs, hcs, hc⟩ := exists_head_renderAt h depth
  cases rest with
  | nil => exact ⟨c, cs, by rw [renderItemsAt, hcs], hc⟩
  | cons y rest =>
    refine ⟨c, cs ++ (',' :: ((newline depth).toList
      ++ (renderItemsAt depth (y :: rest)).toList)), ?_, hc⟩
    rw [renderItemsAt, String.toList_append, String.toList_append, String.toList_append, hcs]
    simp

theorem exists_head_renderFieldsAt (depth : Nat) (f : String × Json) (rest : List (String × Json)) :
    ∃ cs, (renderFieldsAt depth (f :: rest)).toList = '\x22' :: cs := by
  obtain ⟨k, v⟩ := f
  obtain ⟨tail, htail⟩ : ∃ tail, (renderFieldsAt depth ((k, v) :: rest)).toList
      = (quote k).toList ++ tail := by
    cases rest with
    | nil => exact ⟨_, by rw [renderFieldsAt, String.append_assoc, String.toList_append]⟩
    | cons f rest =>
      exact ⟨_, by simp only [renderFieldsAt, String.append_assoc, String.toList_append]; rfl⟩
  rw [htail, toList_quote]
  exact ⟨_, rfl⟩

section Steps

variable {room fuel : Nat} {cs rest after : List Char} {v : Json}

/-- The last item of a list. -/
theorem readItems_last (hvalue : readValue room fuel cs = .ok (v, rest))
    (hclose : skipSpace rest = ']' :: after) :
    readItems room (fuel + 1) cs = .ok ([v], after) := by
  rw [readItems, hvalue]
  simp only [hclose]

/-- An item with more behind it. -/
theorem readItems_more (hvalue : readValue room fuel cs = .ok (v, ',' :: rest)) :
    readItems room (fuel + 1) cs
      = (readItems room fuel (skipSpace rest)).map (fun r => (v :: r.1, r.2)) := by
  have hcomma : skipSpace (',' :: rest) = ',' :: rest := skipSpace_cons (by decide) rest
  rw [readItems, hvalue]
  simp only [hcomma]

variable {k : String} {c : Char}

/-- The blank behind a colon is white space. -/
theorem isSpace_of_mem_blank : ∀ x ∈ [' '], isSpace x = true := forall_mem_of_all (by decide)

/-- The last field of an object; white space may stand behind its colon. -/
theorem readFields_last {gap : List Char} (hgap : ∀ x ∈ gap, isSpace x = true)
    (hc : isSpace c = false) (hvalue : readValue room fuel (c :: cs) = .ok (v, rest))
    (hclose : skipSpace rest = '\x7d' :: after) :
    readFields room (fuel + 1) ((quote k).toList ++ ':' :: (gap ++ c :: cs))
      = .ok ([(k, v)], after) := by
  have hcolon : skipSpace (':' :: (gap ++ c :: cs)) = ':' :: (gap ++ c :: cs) :=
    skipSpace_cons (by decide) _
  rw [toList_quote, readFields]
  simp only [readString_flatMap, hcolon, skipSpace_append hgap hc, hvalue, hclose,
    String.ofList_toList]

/-- A field with more behind it. -/
theorem readFields_more {gap : List Char} (hgap : ∀ x ∈ gap, isSpace x = true)
    (hc : isSpace c = false) (hvalue : readValue room fuel (c :: cs) = .ok (v, ',' :: rest)) :
    readFields room (fuel + 1) ((quote k).toList ++ ':' :: (gap ++ c :: cs))
      = (readFields room fuel (skipSpace rest)).map (fun r => ((k, v) :: r.1, r.2)) := by
  have hcolon : skipSpace (':' :: (gap ++ c :: cs)) = ':' :: (gap ++ c :: cs) :=
    skipSpace_cons (by decide) _
  have hcomma : skipSpace (',' :: rest) = ',' :: rest := skipSpace_cons (by decide) rest
  rw [toList_quote, readFields]
  simp only [readString_flatMap, hcolon, skipSpace_append hgap hc, hvalue, hcomma,
    String.ofList_toList]

end Steps

/-- The text of a value is not empty, so there is fuel for a round. -/
theorem exists_fuel {v : Json} (h : v.IsExact) {depth fuel : Nat}
    (hfuel : 2 * (renderAt depth v).toList.length ≤ fuel) : ∃ n, fuel = n + 1 := by
  obtain ⟨c, cs, hcs, _⟩ := exists_head_renderAt h depth
  rw [hcs, List.length_cons] at hfuel
  exact ⟨fuel - 1, by omega⟩

-- By recursion over the value, for every text behind it.  Twice the length of a text
-- is fuel enough: an item has a character, and takes a round of its list and its own.
mutual

/-- **The text of a value is read back**, whatever stops it. -/
theorem readValue_renderAt : ∀ (v : Json) (depth room fuel : Nat) (rest : List Char),
    v.IsExact → v.hasOverlong = false → v.depth ≤ room →
    2 * (renderAt depth v).toList.length ≤ fuel → Stops rest →
    readValue room fuel ((renderAt depth v).toList ++ rest) = .ok (v, rest)
  | null, depth, room, fuel, rest => by
    intro hexact _ _ hfuel _
    obtain ⟨fuel, rfl⟩ := exists_fuel hexact hfuel
    rw [renderAt]
    exact readValue_atom (by decide) (by decide) (by decide) _
  | bool true, depth, room, fuel, rest => by
    intro hexact _ _ hfuel _
    obtain ⟨fuel, rfl⟩ := exists_fuel hexact hfuel
    rw [renderAt]
    exact readValue_atom (by decide) (by decide) (by decide) _
  | bool false, depth, room, fuel, rest => by
    intro hexact _ _ hfuel _
    obtain ⟨fuel, rfl⟩ := exists_fuel hexact hfuel
    rw [renderAt]
    exact readValue_atom (by decide) (by decide) (by decide) _
  | int n, depth, room, fuel, rest => by
    intro hexact hshort _ hfuel hrest
    obtain ⟨fuel, rfl⟩ := exists_fuel hexact hfuel
    rw [hasOverlong] at hshort
    rw [renderAt]
    exact readValue_int hshort hrest
  | float _, _, _, _, _ => fun hexact _ _ _ _ => hexact.elim
  | str s, depth, room, fuel, rest => by
    intro hexact _ _ hfuel _
    obtain ⟨fuel, rfl⟩ := exists_fuel hexact hfuel
    rw [renderAt]
    exact readValue_quote room fuel s rest
  | arr [], depth, room, fuel, rest => by
    intro hexact _ hdepth hfuel _
    obtain ⟨fuel, rfl⟩ := exists_fuel hexact hfuel
    obtain ⟨room, rfl⟩ : ∃ n, room = n + 1 := ⟨room - 1, by rw [Json.depth] at hdepth; omega⟩
    rw [renderAt]
    rfl
  | arr (x :: items), depth, room, fuel, rest => by
    intro hexact hshort hdepth hfuel _
    obtain ⟨fuel, rfl⟩ := exists_fuel hexact hfuel
    rw [Json.depth] at hdepth
    rw [hasOverlong] at hshort
    obtain ⟨room, rfl⟩ : ∃ n, room = n + 1 := ⟨room - 1, by omega⟩
    have htext : (renderAt depth (arr (x :: items))).toList ++ rest
        = '[' :: ((newline (depth + 1)).toList ++ ((renderItemsAt (depth + 1) (x :: items)).toList
          ++ ((newline depth).toList ++ ']' :: rest))) := by
      rw [renderAt]
      simp
    have hlen : (renderItemsAt (depth + 1) (x :: items)).toList.length + 2
        ≤ (renderAt depth (arr (x :: items))).toList.length := by
      rw [renderAt]
      simp
      omega
    have hitems := readItems_renderItemsAt (x :: items) (depth + 1) depth room fuel rest (by simp)
      hexact hshort (by omega) (by omega)
    obtain ⟨c, cs, hcs, hc⟩ := exists_head_renderItemsAt hexact.1 (depth + 1) items
    rw [hcs, List.cons_append] at hitems
    rw [htext, hcs, List.cons_append, readValue_list isSpace_of_mem_newline hc.1 hc.2.1, hitems]
    rfl
  | obj [], depth, room, fuel, rest => by
    intro hexact _ hdepth hfuel _
    obtain ⟨fuel, rfl⟩ := exists_fuel hexact hfuel
    obtain ⟨room, rfl⟩ : ∃ n, room = n + 1 := ⟨room - 1, by rw [Json.depth] at hdepth; omega⟩
    rw [renderAt]
    rfl
  | obj (f :: fields), depth, room, fuel, rest => by
    intro hexact hshort hdepth hfuel _
    obtain ⟨fuel, rfl⟩ := exists_fuel hexact hfuel
    rw [Json.depth] at hdepth
    rw [hasOverlong] at hshort
    obtain ⟨room, rfl⟩ : ∃ n, room = n + 1 := ⟨room - 1, by omega⟩
    have htext : (renderAt depth (obj (f :: fields))).toList ++ rest
        = '\x7b' :: ((newline (depth + 1)).toList
          ++ ((renderFieldsAt (depth + 1) (f :: fields)).toList
          ++ ((newline depth).toList ++ '\x7d' :: rest))) := by
      rw [renderAt]
      simp
    have hlen : (renderFieldsAt (depth + 1) (f :: fields)).toList.length + 2
        ≤ (renderAt depth (obj (f :: fields))).toList.length := by
      rw [renderAt]
      simp
      omega
    have hfields := readFields_renderFieldsAt (f :: fields) (depth + 1) depth room fuel rest
      (by simp) hexact.2 hshort (by omega) (by omega)
    obtain ⟨cs, hcs⟩ := exists_head_renderFieldsAt (depth + 1) f fields
    rw [hcs, List.cons_append] at hfields
    rw [htext, hcs, List.cons_append, readValue_object isSpace_of_mem_newline, hfields]
    -- the keys differ, so putting the fields one by one merges none
    show Except.ok (obj (Fields.ofList (f :: fields)), rest) = _
    rw [Fields.ofList_of_nodup hexact.1]

/-- The text of items is read back through the bracket that closes their list. -/
theorem readItems_renderItemsAt : ∀ (items : List Json) (depth outer room fuel : Nat)
    (after : List Char), items ≠ [] → ItemsExact items → hasOverlongItem items = false →
    depthOfItems items ≤ room → 2 * (renderItemsAt depth items).toList.length + 1 ≤ fuel →
    readItems room fuel ((renderItemsAt depth items).toList
      ++ ((newline outer).toList ++ ']' :: after)) = .ok (items, after)
  | [], _, _, _, _, _ => fun hne _ _ _ _ => absurd rfl hne
  | [x], depth, outer, room, fuel, after => by
    -- the last item is followed by the line feed of the level outside
    intro _ hexact hshort hdepth hfuel
    simp only [hasOverlongItem, Bool.or_false] at hshort
    simp only [depthOfItems, Nat.max_zero] at hdepth
    obtain ⟨fuel, rfl⟩ : ∃ n, fuel = n + 1 := ⟨fuel - 1, by omega⟩
    rw [renderItemsAt] at hfuel ⊢
    exact readItems_last
      (readValue_renderAt x depth room fuel _ hexact.1 hshort hdepth (by omega)
        (stops_newline_append outer _))
      (skipSpace_append isSpace_of_mem_newline (by decide) after)
  | x :: y :: rest, depth, outer, room, fuel, after => by
    -- a comma and a line feed of this level are followed by the items that are left
    intro _ hexact hshort hdepth hfuel
    simp only [hasOverlongItem, Bool.or_eq_false_iff] at hshort
    have hx : x.depth ≤ room := by
      rw [depthOfItems] at hdepth
      omega
    have hrest : depthOfItems (y :: rest) ≤ room := by
      rw [depthOfItems] at hdepth
      omega
    have htext : (renderItemsAt depth (x :: y :: rest)).toList
          ++ ((newline outer).toList ++ ']' :: after)
        = (renderAt depth x).toList ++ ',' :: ((newline depth).toList
          ++ ((renderItemsAt depth (y :: rest)).toList
            ++ ((newline outer).toList ++ ']' :: after))) := by
      rw [renderItemsAt]
      simp
    have hlen : (renderAt depth x).toList.length + (renderItemsAt depth (y :: rest)).toList.length
        + 1 ≤ (renderItemsAt depth (x :: y :: rest)).toList.length := by
      have hcomma : (",".toList).length = 1 := rfl
      rw [renderItemsAt]
      simp only [String.toList_append, List.length_append]
      omega
    obtain ⟨fuel, rfl⟩ : ∃ n, fuel = n + 1 := ⟨fuel - 1, by omega⟩
    have hitems := readItems_renderItemsAt (y :: rest) depth outer room fuel after (by simp)
      hexact.2 (by rw [hasOverlongItem, Bool.or_eq_false_iff]; exact hshort.2) hrest (by omega)
    -- the reader skips blanks behind the comma, so it has to be seen that the text of the
    -- next item begins with none
    obtain ⟨c, cs, hcs, hc⟩ := exists_head_renderItemsAt hexact.2.1 depth rest
    rw [hcs, List.cons_append] at hitems
    rw [htext, readItems_more (readValue_renderAt x depth room fuel _ hexact.1 hshort.1 hx
      (by omega) (stops_comma _)), hcs, List.cons_append,
      skipSpace_append isSpace_of_mem_newline hc.1, hitems]
    rfl

/-- The text of fields is read back through the brace that closes their object. -/
theorem readFields_renderFieldsAt : ∀ (fields : List (String × Json)) (depth outer room fuel : Nat)
    (after : List Char), fields ≠ [] → FieldsExact fields → hasOverlongField fields = false →
    depthOfFields fields ≤ room → 2 * (renderFieldsAt depth fields).toList.length + 1 ≤ fuel →
    readFields room fuel ((renderFieldsAt depth fields).toList
      ++ ((newline outer).toList ++ '\x7d' :: after)) = .ok (fields, after)
  | [], _, _, _, _, _ => fun hne _ _ _ _ => absurd rfl hne
  | [(k, v)], depth, outer, room, fuel, after => by
    -- the last field is followed by the line feed of the level outside
    intro _ hexact hshort hdepth hfuel
    simp only [hasOverlongField, Bool.or_false] at hshort
    simp only [depthOfFields, Nat.max_zero] at hdepth
    have htext : (renderFieldsAt depth [(k, v)]).toList ++ ((newline outer).toList ++ '\x7d' :: after)
        = (quote k).toList ++ ':' :: ([' '] ++ ((renderAt depth v).toList
          ++ ((newline outer).toList ++ '\x7d' :: after))) := by
      rw [renderFieldsAt]
      simp
    have hlen : (renderAt depth v).toList.length ≤ (renderFieldsAt depth [(k, v)]).toList.length := by
      rw [renderFieldsAt]
      simp
      omega
    obtain ⟨fuel, rfl⟩ : ∃ n, fuel = n + 1 := ⟨fuel - 1, by omega⟩
    have hvalue := readValue_renderAt v depth room fuel _ hexact.1 hshort hdepth (by omega)
      (stops_newline_append outer ('\x7d' :: after))
    obtain ⟨c, cs, hcs, hc⟩ := exists_head_renderAt hexact.1 depth
    rw [hcs, List.cons_append] at hvalue
    rw [htext, hcs]
    exact readFields_last isSpace_of_mem_blank hc.1 hvalue
      (skipSpace_append isSpace_of_mem_newline (by decide) after)
  | (k, v) :: f :: rest, depth, outer, room, fuel, after => by
    -- a comma and a line feed of this level are followed by the fields that are left
    intro _ hexact hshort hdepth hfuel
    rw [hasOverlongField, Bool.or_eq_false_iff] at hshort
    have hv : v.depth ≤ room := by
      rw [depthOfFields] at hdepth
      omega
    have hrest : depthOfFields (f :: rest) ≤ room := by
      rw [depthOfFields] at hdepth
      omega
    have htext : (renderFieldsAt depth ((k, v) :: f :: rest)).toList
          ++ ((newline outer).toList ++ '\x7d' :: after)
        = (quote k).toList ++ ':' :: ([' '] ++ ((renderAt depth v).toList
          ++ ',' :: ((newline depth).toList ++ ((renderFieldsAt depth (f :: rest)).toList
            ++ ((newline outer).toList ++ '\x7d' :: after))))) := by
      rw [renderFieldsAt]
      simp
    have hlen : (renderAt depth v).toList.length + (renderFieldsAt depth (f :: rest)).toList.length
        + 1 ≤ (renderFieldsAt depth ((k, v) :: f :: rest)).toList.length := by
      rw [renderFieldsAt]
      simp
      omega
    obtain ⟨fuel, rfl⟩ : ∃ n, fuel = n + 1 := ⟨fuel - 1, by omega⟩
    have hvalue := readValue_renderAt v depth room fuel _ hexact.1 hshort.1 hv (by omega)
      (stops_comma ((newline depth).toList ++ ((renderFieldsAt depth (f :: rest)).toList
        ++ ((newline outer).toList ++ '\x7d' :: after))))
    have hfields := readFields_renderFieldsAt (f :: rest) depth outer room fuel after (by simp)
      hexact.2 hshort.2 hrest (by omega)
    obtain ⟨c, cs, hcs, hc⟩ := exists_head_renderAt hexact.1 depth
    -- the next field begins with the quote of its key, which is no blank
    obtain ⟨ds, hds⟩ := exists_head_renderFieldsAt depth f rest
    rw [hcs, List.cons_append] at hvalue
    rw [hds, List.cons_append] at hfields hvalue
    rw [htext, hcs, hds]
    refine (readFields_more isSpace_of_mem_blank hc.1 hvalue).trans ?_
    rw [skipSpace_append isSpace_of_mem_newline (by decide), hfields]
    rfl

end

/-- **Indented text is read back.** -/
theorem readWithin_renderIndented {v : Json} (hexact : v.IsExact) (hshort : v.hasOverlong = false)
    {room : Nat} (hdepth : v.depth ≤ room) :
    readWithin room v.renderIndented.toList = .ok v := by
  have hvalue : readValue room (2 * v.renderIndented.toList.length + 2)
      (v.renderIndented.toList ++ []) = .ok (v, []) :=
    readValue_renderAt v 0 room _ [] hexact hshort hdepth (by rw [renderIndented]; omega)
      (fun _ h => by cases h)
  obtain ⟨c, cs, hcs, hspace, _, hmark⟩ := exists_head_renderAt hexact 0
  rw [← renderIndented] at hcs
  rw [List.append_nil, hcs] at hvalue
  rw [hcs]
  exact readWithin_of_readValue hspace hmark hvalue

/-! ## §5. Line feeds. -/

theorem not_control_of_mem_toString {n : Int} {x : Char} (h : x ∈ (toString n).toList) :
    ¬ x.toNat < 32 := by
  have hdigit : ∀ d : Char, d.isDigit = true → ¬ d.toNat < 32 := by
    intro d hd
    have := bounds_of_isDigit hd
    omega
  rw [toList_toString_int] at h
  unfold intChars at h
  split at h
  · rcases List.mem_cons.mp h with rfl | h
    · decide
    · exact hdigit x (isDigit_of_mem_digits h)
  · exact hdigit x (isDigit_of_mem_digits h)

theorem not_control_of_mem_quote {s : String} {x : Char} (h : x ∈ (quote s).toList) :
    ¬ x.toNat < 32 := by
  rw [quote, String.toList_ofList] at h
  exact not_control_of_mem_encodeString h

/-- Line feeds are the only control characters of the text. -/
def OnlyFeeds (s : String) : Prop := ∀ x ∈ s.toList, x.toNat < 32 → x = '\n'

instance (s : String) : Decidable (OnlyFeeds s) := List.decidableBAll _ _

theorem OnlyFeeds.append {s t : String} (hs : OnlyFeeds s) (ht : OnlyFeeds t) :
    OnlyFeeds (s ++ t) := by
  intro x hx
  rw [String.toList_append] at hx
  rcases List.mem_append.mp hx with hx | hx
  · exact hs x hx
  · exact ht x hx

theorem onlyFeeds_toString (n : Int) : OnlyFeeds (toString n) :=
  fun _ hx hcontrol => absurd hcontrol (not_control_of_mem_toString hx)

theorem onlyFeeds_quote (s : String) : OnlyFeeds (quote s) :=
  fun _ hx hcontrol => absurd hcontrol (not_control_of_mem_quote hx)

theorem onlyFeeds_newline (depth : Nat) : OnlyFeeds (newline depth) := by
  intro x hx hcontrol
  rw [toList_newline] at hx
  rcases List.mem_cons.mp hx with rfl | hx
  · rfl
  · rw [List.eq_of_mem_replicate hx] at hcontrol
    exact absurd hcontrol (by decide)

mutual

/-- **Indented text breaks lines by line feeds only.** -/
theorem onlyFeeds_renderAt : ∀ (v : Json) (depth : Nat), v.IsExact → OnlyFeeds (renderAt depth v)
  | null, depth => fun _ => by
    rw [renderAt]
    decide
  | bool b, depth => fun _ => by
    rw [renderAt]
    cases b <;> decide
  | int n, depth => fun _ => by
    rw [renderAt]
    exact onlyFeeds_toString n
  | float _, _ => fun hexact => hexact.elim
  | str s, depth => fun _ => by
    rw [renderAt]
    exact onlyFeeds_quote s
  | arr [], depth => fun _ => by
    rw [renderAt]
    decide
  | arr (x :: items), depth => fun hexact => by
    have hopen : OnlyFeeds "[" := by decide
    have hclose : OnlyFeeds "]" := by decide
    have hitems := onlyFeeds_renderItemsAt (x :: items) (depth + 1) hexact
    rw [renderAt]
    exact (((hopen.append (onlyFeeds_newline _)).append hitems).append
      (onlyFeeds_newline _)).append hclose
  | obj [], depth => fun _ => by
    rw [renderAt]
    decide
  | obj (f :: fields), depth => fun hexact => by
    have hopen : OnlyFeeds "\x7b" := by decide
    have hclose : OnlyFeeds "\x7d" := by decide
    have hfields := onlyFeeds_renderFieldsAt (f :: fields) (depth + 1) hexact.2
    rw [renderAt]
    exact (((hopen.append (onlyFeeds_newline _)).append hfields).append
      (onlyFeeds_newline _)).append hclose

theorem onlyFeeds_renderItemsAt : ∀ (items : List Json) (depth : Nat), ItemsExact items →
    OnlyFeeds (renderItemsAt depth items)
  | [], depth => fun _ => by
    rw [renderItemsAt]
    decide
  | [x], depth => fun hexact => by
    rw [renderItemsAt]
    exact onlyFeeds_renderAt x depth hexact.1
  | x :: y :: rest, depth => fun hexact => by
    have hcomma : OnlyFeeds "," := by decide
    rw [renderItemsAt]
    exact (((onlyFeeds_renderAt x depth hexact.1).append hcomma).append
      (onlyFeeds_newline depth)).append (onlyFeeds_renderItemsAt (y :: rest) depth hexact.2)

theorem onlyFeeds_renderFieldsAt : ∀ (fields : List (String × Json)) (depth : Nat),
    FieldsExact fields → OnlyFeeds (renderFieldsAt depth fields)
  | [], depth => fun _ => by
    rw [renderFieldsAt]
    decide
  | [(k, v)], depth => fun hexact => by
    have hcolon : OnlyFeeds ": " := by decide
    rw [renderFieldsAt]
    exact ((onlyFeeds_quote k).append hcolon).append (onlyFeeds_renderAt v depth hexact.1)
  | (k, v) :: f :: rest, depth => fun hexact => by
    have hcolon : OnlyFeeds ": " := by decide
    have hcomma : OnlyFeeds "," := by decide
    have hfield := ((onlyFeeds_quote k).append hcolon).append (onlyFeeds_renderAt v depth hexact.1)
    rw [renderFieldsAt]
    exact ((hfield.append hcomma).append (onlyFeeds_newline depth)).append
      (onlyFeeds_renderFieldsAt (f :: rest) depth hexact.2)

end

end Json
end FlowTrace
