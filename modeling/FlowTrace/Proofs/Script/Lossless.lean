/-
  FlowTrace.Proofs.Script.Lossless
  ────────────────────────────────
  **A LITERAL SAYS ITS TEXT AND NOTHING ELSE.**

  An input whose text is emitted as a literal becomes one of two tokens, and which
  one depends on whether the text holds a placeholder:

      template — the text between backticks, with backslashes and backticks
                 escaped; taking the escapes back gives the text, and a reader of
                 templates stops at the last backtick
      string   — a JSON string token; a reader of strings stops at the last
                 quote and has the text

  What stands behind the token does not matter, so no text can end its own token
  early or reach into what follows.  Parameters that are strings therefore make an
  object that reads back key for key, in order.
-/
import FlowTrace.Proofs.Json.Indented
import FlowTrace.Script.Literal

namespace FlowTrace
namespace Script

/-! ## §1. Placeholders. -/

/-- The text holds a dollar sign and an opening brace with a closing brace somewhere
behind them. -/
def HoldsPlaceholder (cs : List Char) : Prop :=
  ∃ before between after, cs = before ++ '$' :: '{' :: (between ++ '}' :: after)

theorem hasPlaceholder_iff {cs : List Char} :
    hasPlaceholder cs = true ↔ HoldsPlaceholder cs := by
  fun_induction hasPlaceholder cs with
  | case1 rest =>
    rw [List.contains_iff_mem]
    constructor
    · intro h
      obtain ⟨between, after, rfl⟩ := List.append_of_mem h
      exact ⟨[], between, after, rfl⟩
    · rintro ⟨before, between, after, h⟩
      -- a placeholder further on closes this one too
      have hclose : '}' ∈ '$' :: '{' :: rest := by
        rw [h]
        simp
      simpa using hclose
  | case2 c rest hopen ih =>
    rw [ih]
    constructor
    · rintro ⟨before, between, after, rfl⟩
      exact ⟨c :: before, between, after, rfl⟩
    · rintro ⟨before, between, after, h⟩
      cases before with
      | nil =>
        obtain ⟨rfl, hrest⟩ := List.cons.inj h
        exact absurd hrest (hopen _ rfl)
      | cons b before =>
        obtain ⟨rfl, hrest⟩ := List.cons.inj h
        exact ⟨before, between, after, hrest⟩
  | case3 =>
    constructor
    · intro h
      cases h
    · rintro ⟨before, between, after, h⟩
      cases before <;> cases h

instance (cs : List Char) : Decidable (HoldsPlaceholder cs) :=
  decidable_of_iff _ hasPlaceholder_iff

/-! ## §2. Templates. -/

/-- The text that stands between two backticks, read from left to right: a backslash
takes the next character.  Nothing, if a backtick stands there without a backslash
or a backslash has no character to take. -/
def unescape? : List Char → Option (List Char)
  | [] => some []
  | '\\' :: c :: rest => (unescape? rest).map (c :: ·)
  | c :: rest => if c = '\x60' ∨ c = '\\' then none else (unescape? rest).map (c :: ·)

/-- The text of a template behind its opening backtick, and what follows the backtick
that closes it. -/
def readTemplate? : List Char → Option (List Char × List Char)
  | [] => none
  | '\\' :: c :: rest => (readTemplate? rest).map (fun r => (c :: r.1, r.2))
  | c :: rest =>
      if c = '\x60' then some ([], rest)
      else if c = '\\' then none
      else (readTemplate? rest).map (fun r => (c :: r.1, r.2))

/-- A character inside a template: backslash and backtick are escaped. -/
def templateChar (c : Char) : List Char :=
  if c = '\\' ∨ c = '\x60' then ['\\', c] else [c]

/-- **Escaping the backslashes and then the backticks escapes each character once.**  The
second pass finds none of the backslashes that the first put in front of others, and puts
its own in front of backticks, which the first left alone. -/
theorem templateBody_eq (cs : List Char) : templateBody cs = cs.flatMap templateChar := by
  unfold templateBody guardChar
  rw [List.flatMap_assoc]
  refine congrArg (cs.flatMap ·) (funext fun c => ?_)
  unfold templateChar
  by_cases hslash : c = '\\'
  · subst hslash
    rfl
  · rw [if_neg hslash, List.flatMap_cons, List.flatMap_nil, List.append_nil]
    by_cases htick : c = '\x60'
    · rw [if_pos htick, if_pos (.inr htick), htick]
    · rw [if_neg htick, if_neg (not_or.mpr ⟨hslash, htick⟩)]

/-- An escaped character is taken back as a whole. -/
theorem unescape?_templateChar (c : Char) (rest : List Char) :
    unescape? (templateChar c ++ rest) = (unescape? rest).map (c :: ·) := by
  unfold templateChar
  split
  · rfl
  · next h =>
    rw [not_or] at h
    rw [List.singleton_append, unescape?.eq_def]
    split
    · contradiction
    · next heq => exact absurd (List.cons.inj heq).1 h.1
    · next heq =>
      obtain ⟨rfl, rfl⟩ := List.cons.inj heq
      rw [if_neg (not_or.mpr ⟨h.2, h.1⟩)]

/-- **Taking the escapes back gives the text.** -/
theorem unescape?_templateBody (cs : List Char) : unescape? (templateBody cs) = some cs := by
  rw [templateBody_eq]
  induction cs with
  | nil => rfl
  | cons c cs ih => rw [List.flatMap_cons, unescape?_templateChar, ih, Option.map_some]

/-- A reader cannot be made to stop inside a text whose escapes can be taken back. -/
theorem readTemplate?_of_unescape? {body text : List Char} (h : unescape? body = some text)
    (rest : List Char) : readTemplate? (body ++ '\x60' :: rest) = some (text, rest) := by
  fun_induction unescape? body generalizing text with
  | case1 =>
    cases h
    rfl
  | case2 c body ih =>
    obtain ⟨tail, htail, rfl⟩ := Option.map_eq_some_iff.mp h
    show (readTemplate? (body ++ '\x60' :: rest)).map _ = _
    rw [ih htail, Option.map_some]
  | case3 => cases h
  | case4 c body _ hc ih =>
    obtain ⟨tail, htail, rfl⟩ := Option.map_eq_some_iff.mp h
    rw [not_or] at hc
    rw [List.cons_append, readTemplate?.eq_def]
    split
    · contradiction
    · next heq => exact absurd (List.cons.inj heq).1 hc.2
    · next heq =>
      obtain ⟨rfl, rfl⟩ := List.cons.inj heq
      rw [if_neg hc.1, if_neg hc.2, ih htail, Option.map_some]

/-- The code is a template that says the text, whatever follows it. -/
structure SpellsTemplate (code text : String) : Prop where
  escapes : ∃ body, code.toList = '\x60' :: (body ++ ['\x60'])
    ∧ unescape? body = some text.toList
  closes : ∃ inside, code.toList = '\x60' :: inside
    ∧ ∀ rest, readTemplate? (inside ++ rest) = some (text.toList, rest)

theorem spellsTemplate_template (s : String) :
    SpellsTemplate (String.ofList (template s.toList)) s where
  escapes := ⟨templateBody s.toList, String.toList_ofList, unescape?_templateBody s.toList⟩
  closes := by
    refine ⟨templateBody s.toList ++ ['\x60'], String.toList_ofList, ?_⟩
    intro rest
    rw [List.append_assoc]
    exact readTemplate?_of_unescape? (unescape?_templateBody s.toList) rest

/-! ## §3. String tokens. -/

/-- The code is one string token that says the text, whatever follows it, and holds
no control character. -/
structure SpellsString (code text : String) : Prop where
  decodes : ∀ room, Json.read room code = .ok (.str text)
  closes : ∃ inside, code.toList = '\x22' :: inside
    ∧ ∀ rest, Json.readString (inside ++ rest) = .ok (text.toList, rest)
  clean : ∀ c ∈ code.toList, ¬ c.toNat < 32

theorem spellsString_quote (s : String) : SpellsString (Json.quote s) s where
  decodes := by
    intro room
    rw [Json.read, Json.quote, String.toList_ofList, Json.readWithin_encodeString,
      String.ofList_toList]
  closes := by
    refine ⟨s.toList.flatMap Json.encodeChar ++ ['\x22'], String.toList_ofList, ?_⟩
    intro rest
    rw [List.append_assoc]
    exact Json.readString_flatMap s.toList rest
  clean := by
    intro c hc
    rw [Json.quote, String.toList_ofList] at hc
    exact Json.not_control_of_mem_encodeString hc

end Script

/-! ## §4. Inputs. -/

/-- The input is a literal with a text: it has none of the kinds that are script text
already, and its descriptor, if there is one, gives no value type. -/
structure Input.IsText (item : Input) (s : String) : Prop where
  notVariable : item.kind.same (.str "variable") = false
  notArray : item.kind.same (.str "array") = false
  notArrayObject : item.kind.same (.str "arrayObject") = false
  value : item.value = .str s
  untyped : Script.valueType? item.config = none

namespace Script

/-- Without a value type a placeholder decides what a text becomes. -/
theorem literalOfText_none (s : String) :
    literalOfText none s
      = if hasPlaceholder s.toList then String.ofList (template s.toList) else Json.quote s := by
  have hnumber : (none : Option String) ≠ some "number" := by simp
  have hboolean : (none : Option String) ≠ some "boolean" := by simp
  unfold literalOfText
  simp only
  rw [if_neg (fun h => hnumber h.1), if_neg (fun h => hboolean h.1)]

theorem input_of_isText {item : Input} {s : String} (h : item.IsText s) :
    input item = .ok (.str (literalOfText none s)) := by
  simp only [input, h.notVariable, h.notArray, h.notArrayObject, literal, h.value, h.untyped,
    Bool.false_eq_true, if_false]
  rfl

/-- A text without a placeholder becomes a string. -/
theorem input_of_not_holdsPlaceholder {item : Input} {s : String} (h : item.IsText s)
    (hp : ¬ HoldsPlaceholder s.toList) : input item = .ok (.str (Json.quote s)) := by
  rw [input_of_isText h, literalOfText_none, if_neg (fun hb => hp (hasPlaceholder_iff.mp hb))]

/-! ## §5. Parameters. -/

/-- The code of a parameter that is a string. -/
def stringPair (e : String × String) : String := Json.quote e.1 ++ ":" ++ Json.quote e.2

/-- The field that it reads back as. -/
def stringField (e : String × String) : String × Json := (e.1, .str e.2)

/-- The code of parameters that are strings, without the braces. -/
def stringPairs (es : List (String × String)) : String :=
  String.intercalate "," (es.map stringPair)

theorem toList_stringPair (e : String × String) (rest : List Char) :
    (stringPair e).toList ++ rest
      = (Json.quote e.1).toList ++ ':' :: ([] ++ ((Json.quote e.2).toList ++ rest)) := by
  simp [stringPair]

theorem toList_stringPairs_cons (e f : String × String) (es : List (String × String)) :
    (stringPairs (e :: f :: es)).toList
      = (stringPair e).toList ++ ',' :: (stringPairs (f :: es)).toList := by
  simp [stringPairs, String.toList_intercalate]

/-- The code of some parameters begins with the quote of the first key. -/
theorem exists_head_stringPairs (e : String × String) (es : List (String × String)) :
    ∃ cs, (stringPairs (e :: es)).toList = '\x22' :: cs := by
  have hpair : ∃ cs, (stringPair e).toList = '\x22' :: cs := by
    have h := toList_stringPair e []
    rw [List.append_nil, Json.toList_quote] at h
    exact ⟨_, h⟩
  obtain ⟨cs, hcs⟩ := hpair
  cases es with
  | nil => exact ⟨cs, by simp [stringPairs, hcs]⟩
  | cons f es => exact ⟨_, by rw [toList_stringPairs_cons, hcs, List.cons_append]⟩

/-- Each parameter has a character of its own, so the length of the code is fuel enough. -/
theorem length_le_stringPairs (es : List (String × String)) :
    es.length ≤ (stringPairs es).toList.length := by
  induction es with
  | nil => exact Nat.zero_le _
  | cons e es ih =>
    cases es with
    | nil =>
      obtain ⟨cs, hcs⟩ := exists_head_stringPairs e []
      rw [hcs, List.length_cons, List.length_cons, List.length_nil]
      omega
    | cons f es =>
      rw [toList_stringPairs_cons, List.length_append]
      simp only [List.length_cons] at ih ⊢
      omega

/-- **String parameters are read back** through the brace that closes their object.  A
round of the reader takes one key and its value. -/
theorem readFields_stringPairs (room : Nat) (after : List Char) :
    ∀ (es : List (String × String)) (fuel : Nat), es ≠ [] → es.length < fuel →
      Json.readFields room fuel ((stringPairs es).toList ++ '\x7d' :: after)
        = .ok (es.map stringField, after) := by
  have hgap : ∀ x ∈ ([] : List Char), Json.isSpace x = true := by simp
  have hquote : Json.isSpace '\x22' = false := by decide
  -- the value behind a colon, whatever follows it
  have hvalue : ∀ (n : Nat) (t : String) (rest : List Char), Json.readValue room (n + 1)
      ('\x22' :: (t.toList.flatMap Json.encodeChar ++ '\x22' :: rest)) = .ok (.str t, rest) := by
    intro n t rest
    rw [← Json.toList_quote]
    exact Json.readValue_quote room n t rest
  intro es
  induction es with
  | nil => exact fun _ hne => absurd rfl hne
  | cons e es ih =>
    intro fuel _ hfuel
    obtain ⟨n, rfl⟩ : ∃ n, fuel = n + 1 + 1 := ⟨fuel - 2, by simp at hfuel; omega⟩
    cases es with
    | nil =>
      have hone : (stringPairs [e]).toList = (stringPair e).toList := by simp [stringPairs]
      rw [hone, toList_stringPair, Json.toList_quote e.2]
      exact Json.readFields_last hgap hquote (hvalue n e.2 _)
        (Json.skipSpace_cons (by decide) after)
    | cons f es =>
      obtain ⟨cs, hcs⟩ := exists_head_stringPairs f es
      have hrest := ih (n + 1) (by simp) (by simp at hfuel ⊢; omega)
      rw [toList_stringPairs_cons, List.append_assoc, toList_stringPair, Json.toList_quote e.2,
        List.cons_append, Json.readFields_more hgap hquote (hvalue n e.2 _), hcs, List.cons_append,
        Json.skipSpace_cons hquote, ← List.cons_append, ← hcs, hrest]
      rfl

/-- The object of string parameters is read back. -/
theorem read_stringPairs {es : List (String × String)} (h : (Fields.keys es).Nodup) (room : Nat) :
    Json.read (room + 1) ("\x7b" ++ stringPairs es ++ "\x7d") = .ok (.obj (es.map stringField)) := by
  cases es with
  | nil => rfl
  | cons e es =>
    have hgap : ∀ x ∈ ([] : List Char), Json.isSpace x = true := by simp
    obtain ⟨cs, hcs⟩ := exists_head_stringPairs e es
    have hcode : ("\x7b" ++ stringPairs (e :: es) ++ "\x7d").toList
        = '{' :: ([] ++ '\x22' :: (cs ++ ['\x7d'])) := by
      simp [hcs]
    have hlength : (e :: es).length < 2 * (cs.length + 3) + 1 := by
      have := length_le_stringPairs (e :: es)
      rw [hcs] at this
      simp only [List.length_cons] at this ⊢
      omega
    have hfields := readFields_stringPairs room [] (e :: es) _ (by simp) hlength
    rw [hcs, List.cons_append] at hfields
    -- the keys differ, so no field is replaced by a later one
    have hkeys : (Fields.keys ((e :: es).map stringField)).Nodup := by
      rw [Fields.keys, List.map_map]
      exact h
    rw [Json.read, hcode]
    apply Json.readWithin_of_readValue (by decide) (by decide)
    have hfuel : 2 * ('{' :: ([] ++ '\x22' :: (cs ++ ['\x7d']))).length + 2
        = 2 * (cs.length + 3) + 1 + 1 := by
      simp
    rw [hfuel]
    refine (Json.readValue_object hgap (cs ++ ['\x7d'])).trans ?_
    rw [hfields]
    show Except.ok (Json.obj (Fields.ofList _), []) = _
    rw [Fields.ofList_of_nodup hkeys]

/-- Inputs that are strings become string parameters. -/
theorem pairs_of_isText {inputs : List (String × Input)}
    (h : ∀ e ∈ inputs, ∃ s, e.2.IsText s ∧ ¬ HoldsPlaceholder s.toList) :
    ∃ es : List (String × String), pairs inputs = .ok (es.map stringPair)
      ∧ es.map stringField = inputs.map (fun e => (e.1, e.2.value)) := by
  induction inputs with
  | nil => exact ⟨[], rfl, rfl⟩
  | cons e inputs ih =>
    obtain ⟨key, item⟩ := e
    obtain ⟨s, hs, hp⟩ := h _ List.mem_cons_self
    obtain ⟨es, hpairs, hfields⟩ := ih (fun x hx => h x (List.mem_cons_of_mem _ hx))
    refine ⟨(key, s) :: es, ?_, ?_⟩
    · rw [pairs, input_of_not_holdsPlaceholder hs hp, hpairs]
      rfl
    · rw [List.map_cons, List.map_cons, hfields, hs.value]
      rfl

/-! ## §6. The law. -/

/-- **LITERALS ARE LOSSLESS.**  A literal with a text and without a value type becomes a
template if its text holds a placeholder, and a string token otherwise; either says
exactly the text.  Parameters that are strings, under different keys, become the text
of an object with those keys and texts in that order. -/
theorem literals_lossless :
    (∀ (item : Input) (s : String), item.IsText s → ∃ code, literal item = .ok code
        ∧ input item = .ok (.str code)
        ∧ (HoldsPlaceholder s.toList → SpellsTemplate code s)
        ∧ (¬ HoldsPlaceholder s.toList → SpellsString code s))
      ∧ ∀ inputs : List (String × Input), (Fields.keys inputs).Nodup →
        (∀ e ∈ inputs, ∃ s, e.2.IsText s ∧ ¬ HoldsPlaceholder s.toList) →
        ∃ code, params inputs = .ok code
          ∧ ∀ limits : Json.Limits,
            Json.read limits.reading code
              = .ok (.obj (inputs.map (fun e => (e.1, e.2.value)))) := by
  constructor
  · intro item s h
    refine ⟨literalOfText none s, ?_, input_of_isText h, ?_, ?_⟩
    · simp only [literal, h.value, h.untyped]
    · intro hp
      rw [literalOfText_none, if_pos (hasPlaceholder_iff.mpr hp)]
      exact spellsTemplate_template s
    · intro hp
      rw [literalOfText_none, if_neg (fun hb => hp (hasPlaceholder_iff.mp hb))]
      exact spellsString_quote s
  · intro inputs hkeys htexts
    obtain ⟨es, hpairs, hfields⟩ := pairs_of_isText htexts
    have hnodup : (Fields.keys es).Nodup := by
      have hsame : Fields.keys es = Fields.keys inputs := by
        have := congrArg (List.map Prod.fst) hfields
        rwa [List.map_map, List.map_map] at this
      rw [hsame]
      exact hkeys
    refine ⟨"\x7b" ++ stringPairs es ++ "\x7d", ?_, ?_⟩
    · rw [params, hpairs]
      rfl
    · intro limits
      obtain ⟨room, hroom⟩ := Nat.exists_eq_add_of_le' limits.three_le_reading
      rw [hroom, read_stringPairs hnodup, hfields]

/-- A text with a placeholder that begins with a backtick and ends with a backslash. -/
def trickyText : String := "\x60\\$\x7ba\x7d\\"

/-- An input with it, of a kind nobody knows. -/
def trickyTemplate : Input := { kind := .int 3, value := .str trickyText }

/-- Parameters with quotes, backslashes, a line feed and an open placeholder. -/
def trickyStrings : List (String × Input) :=
  [("", { value := "\"\x7d, \"b\": \"" }), ("a\"\\", { value := "\\\n" }),
    ("b", { value := "\x7d$\x7b" })]

theorem literals_lossless_tricky :
    (∃ code, input trickyTemplate = .ok (.str code) ∧ SpellsTemplate code trickyText)
      ∧ ∃ code, params trickyStrings = .ok code
        ∧ ∀ limits : Json.Limits, Json.read limits.reading code
          = .ok (.obj [("", "\"\x7d, \"b\": \""), ("a\"\\", "\\\n"), ("b", "\x7d$\x7b")]) := by
  constructor
  · obtain ⟨code, _, hcode, htemplate, _⟩ := literals_lossless.1 trickyTemplate trickyText
      ⟨by decide, by decide, by decide, rfl, rfl⟩
    exact ⟨code, hcode, htemplate (by decide)⟩
  · refine literals_lossless.2 trickyStrings (by decide) ?_
    intro e he
    simp only [trickyStrings, List.mem_cons, List.not_mem_nil, or_false] at he
    rcases he with rfl | rfl | rfl
    · exact ⟨_, ⟨by decide, by decide, by decide, rfl, rfl⟩, by decide⟩
    · exact ⟨_, ⟨by decide, by decide, by decide, rfl, rfl⟩, by decide⟩
    · exact ⟨_, ⟨by decide, by decide, by decide, rfl, rfl⟩, by decide⟩

end Script
end FlowTrace
