/-
  FlowTrace.Proofs.Block.Call
  ────────────────────────────────
  **A BLOCK CALL IS SCANNED BACK.**

  A block call is emitted as

      target = factory(line, "flow", "alias", "name", "display", "strategy", wait, retries)

  and scanned token by token.  The tokens that the scanner takes out of an
  emitted call are the ones that were put in, and they stand for the fields of
  the record, for every record whose texts are texts and whose numbers are
  numbers.
-/
import FlowTrace.Proofs.Json.StringToken
import FlowTrace.Proofs.Number.WholeForm
import FlowTrace.Proofs.Outcome
import FlowTrace.Script.Statement

namespace FlowTrace

open Outcome

/-! ## §1. Records that a call can carry. -/

/-- A record whose texts are texts and whose numbers are numbers, the block
number not a negative one. -/
structure Block.IsCallable (b : Block) : Prop where
  line : ∃ n : Nat, b.line = .int n
  flowName : ∃ s, b.flowName = .str s
  flowAlias : ∃ s, b.flowAlias = .str s
  directiveName : ∃ s, b.directiveName = .str s
  displayName : ∃ s, b.displayName = .str s
  failureStrategy : ∃ s, b.failureStrategy = .str s
  intervalTime : ∃ n, b.intervalTime = .int n
  retryCount : ∃ n, b.retryCount = .int n

/-- A number that can be emitted: its text is its digits, which read as the number. -/
theorem Script.wholeNumber_int {n : Int} {s : String} (h : Script.wholeNumber (.int n) = .ok s) :
    s.toList = intChars n ∧ Scan.number (intChars n) = .ok (.int n) := by
  obtain ⟨m, hm, hnumeral⟩ := bind_eq_ok.mp h
  cases hm
  obtain ⟨hs, hread⟩ := Json.toInt_of_numeral hnumeral
  have hchars : s.toList = intChars n := by rw [hs, toList_toString_int]
  refine ⟨hchars, ?_⟩
  rw [Scan.number, ← hchars, String.ofList_toList, hread]
  rfl

/-! ## §2. Tokens. -/

namespace Scan

theorem digitsToken?_digits (n : Nat) {x : Char} (hx : DecimalDigit.isDigit x = false)
    (rest : List Char) :
    digitsToken? (Nat.toDigits 10 n ++ x :: rest) = some (Nat.toDigits 10 n, x :: rest) := by
  have hall : ∀ c ∈ Nat.toDigits 10 n, DecimalDigit.isDigit c = true :=
    fun c hc => DecimalDigit.isDigit_of_isDigit (isDigit_of_mem_digits hc)
  have hempty : (Nat.toDigits 10 n).isEmpty = false := by simp
  unfold digitsToken?
  rw [List.takeWhile_append_of_pos hall, List.dropWhile_append_of_pos hall,
    List.takeWhile_cons_of_neg (by simp [hx]), List.dropWhile_cons_of_neg (by simp [hx])]
  simp [hempty]

theorem numberToken?_intChars (n : Int) {x : Char} (hx : DecimalDigit.isDigit x = false)
    (rest : List Char) :
    numberToken? (intChars n ++ x :: rest) = some (intChars n, x :: rest) := by
  unfold intChars
  split
  · rw [List.cons_append, numberToken?, digitsToken?_digits _ hx]
    rfl
  · -- the first digit is no minus sign
    unfold numberToken?
    split
    · next heq =>
      obtain ⟨d, ds, hds⟩ := List.exists_cons_of_ne_nil (Nat.toDigits_ne_nil (n := n.natAbs) (b := 10))
      rw [hds, List.cons_append] at heq
      have hminus := isDigit_of_mem_digits (hds ▸ List.mem_cons_self)
      rw [(List.cons.inj heq).1] at hminus
      cases hminus
    · exact digitsToken?_digits _ hx rest

/-- A comma and one blank stand before the next token. -/
theorem afterComma?_comma {cs : List Char} (h : skipBlanks cs = cs) :
    afterComma? (',' :: ' ' :: cs) = some cs := by
  show some (skipBlanks (' ' :: cs)) = some cs
  rw [skipBlanks, List.dropWhile_cons_of_pos (by decide), ← skipBlanks, h]

theorem skipBlanks_encodeString (cs rest : List Char) :
    skipBlanks (Json.encodeString cs ++ rest) = Json.encodeString cs ++ rest := rfl

theorem skipBlanks_intChars (n : Int) (rest : List Char) :
    skipBlanks (intChars n ++ rest) = intChars n ++ rest := by
  have hne : intChars n ≠ [] := by
    unfold intChars
    split
    · simp
    · exact Nat.toDigits_ne_nil
  obtain ⟨c, cs, hcs⟩ := List.exists_cons_of_ne_nil hne
  have hc : isBlank c = false := isBlank_of_mem_intChars (n := n) (by simp [hcs])
  rw [hcs, List.cons_append, skipBlanks, List.dropWhile_cons_of_neg (by simp [hc])]

/-! ## §3. Calls. -/

theorem after?_append (word rest : List Char) : Json.after? word (word ++ rest) = some rest := by
  induction word with
  | nil => rfl
  | cons c word ih => simpa [Json.after?] using ih

theorem prefix_of_after? {word cs rest : List Char} (h : Json.after? word cs = some rest) :
    cs = word ++ rest := by
  induction word generalizing cs with
  | nil =>
    cases h
    rfl
  | cons w word ih =>
    cases cs with
    | nil => cases h
    | cons c cs =>
      simp only [Json.after?] at h
      split at h
      · next heq => rw [heq, ih h, List.cons_append]
      · cases h

/-- A call begins with the factory and an opening parenthesis. -/
theorem prefix_of_callHere? {factory cs : List Char} {call : Call}
    (h : callHere? factory cs = some call) : factory ++ ['('] <+: cs := by
  unfold callHere? at h
  obtain ⟨rest, hafter, hargs⟩ := Option.bind_eq_some_iff.mp h
  obtain ⟨rest', hparen, _⟩ := Option.bind_eq_some_iff.mp hargs
  cases rest with
  | nil => cases hparen
  | cons d rest =>
    simp only [afterChar?] at hparen
    split at hparen
    · next hd =>
      subst hd
      rw [prefix_of_after? hafter]
      exact ⟨rest, by simp⟩
    · cases hparen

/-- A sequence of steps finds something if its first step does and the others then do. -/
theorem bind_eq_some_of {α β : Type} {x : Option α} {f : α → Option β} {a : α} {b : β}
    (hx : x = some a) (hf : f a = some b) : (x >>= f) = some b :=
  Option.bind_eq_some_iff.mpr ⟨a, hx, hf⟩

/-- The characters of the arguments of a call. -/
def argChars (line intervalTime retryCount : Int)
    (flowName flowAlias directiveName displayName failureStrategy : List Char) : List Char :=
  intChars line ++ ',' :: ' ' :: (Json.encodeString flowName
    ++ ',' :: ' ' :: (Json.encodeString flowAlias
    ++ ',' :: ' ' :: (Json.encodeString directiveName
    ++ ',' :: ' ' :: (Json.encodeString displayName
    ++ ',' :: ' ' :: (Json.encodeString failureStrategy
    ++ ',' :: ' ' :: (intChars intervalTime
    ++ ',' :: ' ' :: intChars retryCount))))))

theorem callHere?_argChars (factory : List Char) (line : Nat) (intervalTime retryCount : Int)
    (flowName flowAlias directiveName displayName failureStrategy rest : List Char) :
    callHere? factory (factory ++ '(' :: (argChars line intervalTime retryCount flowName flowAlias
        directiveName displayName failureStrategy ++ ')' :: rest))
      = some
          { line := intChars line, flowName := Json.encodeString flowName
            flowAlias := Json.encodeString flowAlias
            directiveName := Json.encodeString directiveName
            displayName := Json.encodeString displayName
            failureStrategy := Json.encodeString failureStrategy
            intervalTime := intChars intervalTime, retryCount := intChars retryCount } := by
  have hcomma : DecimalDigit.isDigit ',' = false := by decide +kernel
  have hclose : DecimalDigit.isDigit ')' = false := by decide +kernel
  have hline : ∀ cs, digitsToken? (skipBlanks (intChars line ++ ',' :: cs))
      = some (intChars line, ',' :: cs) := by
    intro cs
    have hdigits : intChars (line : Int) = Nat.toDigits 10 line := by
      rw [intChars, if_neg (by omega), Int.natAbs_natCast]
    rw [skipBlanks_intChars, hdigits]
    exact digitsToken?_digits line hcomma cs
  have htext : ∀ s cs, afterComma? (',' :: ' ' :: (Json.encodeString s ++ cs))
      = some (Json.encodeString s ++ cs) :=
    fun s cs => afterComma?_comma (skipBlanks_encodeString s cs)
  have hnumber : ∀ n cs, afterComma? (',' :: ' ' :: (intChars n ++ cs)) = some (intChars n ++ cs) :=
    fun n cs => afterComma?_comma (skipBlanks_intChars n cs)
  simp only [argChars, List.append_assoc, List.cons_append]
  unfold callHere?
  -- token by token: each is taken off the front, and the rest begins with the next
  apply bind_eq_some_of (after?_append _ _)
  apply bind_eq_some_of rfl
  apply bind_eq_some_of (hline _)
  apply bind_eq_some_of (htext _ _)
  apply bind_eq_some_of (stringToken?_encodeString _ _)
  apply bind_eq_some_of (htext _ _)
  apply bind_eq_some_of (stringToken?_encodeString _ _)
  apply bind_eq_some_of (htext _ _)
  apply bind_eq_some_of (stringToken?_encodeString _ _)
  apply bind_eq_some_of (htext _ _)
  apply bind_eq_some_of (stringToken?_encodeString _ _)
  apply bind_eq_some_of (htext _ _)
  apply bind_eq_some_of (stringToken?_encodeString _ _)
  apply bind_eq_some_of (hnumber _ _)
  apply bind_eq_some_of (numberToken?_intChars _ hcomma _)
  apply bind_eq_some_of (hnumber _ _)
  apply bind_eq_some_of (numberToken?_intChars _ hclose _)
  rfl

end Scan

/-- **An emitted call is scanned back**: a block call assigns to the target a call
of the factory that the scanner reads as the record, whatever follows. -/
theorem Script.callHere?_blockCall {b : Block} (hb : b.IsCallable) {factory target code : String}
    (h : Script.blockCall b factory target = .ok code) :
    ∃ args, code.toList = target.toList ++ " = ".toList
        ++ (factory.toList ++ '(' :: (args ++ [')']))
      ∧ ∀ rest, ∃ call,
        Scan.callHere? factory.toList (factory.toList ++ '(' :: (args ++ ')' :: rest)) = some call
          ∧ call.toBlock = .ok b := by
  obtain ⟨bline, bflow, bother, bname, bdisplay, bstrategy, binterval, bretry⟩ := b
  obtain ⟨⟨line, h1⟩, ⟨flow, h2⟩, ⟨other, h3⟩, ⟨name, h4⟩, ⟨display, h5⟩, ⟨strategy, h6⟩,
    ⟨interval, h7⟩, ⟨retry, h8⟩⟩ := hb
  simp only at h1 h2 h3 h4 h5 h6 h7 h8
  subst h1 h2 h3 h4 h5 h6 h7 h8
  simp only [Script.blockCall, bind_eq_ok, pure_eq_ok] at h
  obtain ⟨l, hl, i, hi, r, hr, rfl⟩ := h
  obtain ⟨hltext, hlread⟩ := Script.wholeNumber_int hl
  obtain ⟨hitext, hiread⟩ := Script.wholeNumber_int hi
  obtain ⟨hrtext, hrread⟩ := Script.wholeNumber_int hr
  refine ⟨Scan.argChars line interval retry flow.toList other.toList name.toList display.toList
    strategy.toList, ?_, ?_⟩
  · simp [Scan.argChars, hltext, hitext, hrtext, Json.render, Json.quote]
  · intro rest
    refine ⟨_, Scan.callHere?_argChars factory.toList line interval retry flow.toList other.toList
      name.toList display.toList strategy.toList rest, ?_⟩
    simp only [Scan.Call.toBlock, hlread, hiread, hrread, Scan.decode_encodeString,
      String.ofList_toList]
    rfl

/-! ## §4. Which calls can be emitted. -/

/-- The value, if it is a whole number, does not have too many digits to be
written. -/
def Json.IsWritable (v : Json) : Prop := ∀ n, v = .int n → Numeral.isOverlong n = false

theorem Json.isWritable_int {n : Int} :
    (Json.int n).IsWritable ↔ Numeral.isOverlong n = false := by
  simp [IsWritable]

/-- The numbers of a record do not have too many digits to be written. -/
structure Block.IsWritable (b : Block) : Prop where
  line : b.line.IsWritable
  intervalTime : b.intervalTime.IsWritable
  retryCount : b.retryCount.IsWritable

theorem Block.isWritable_iff {b : Block} {line wait retries : Int} (hline : b.line = .int line)
    (hwait : b.intervalTime = .int wait) (hretries : b.retryCount = .int retries) :
    b.IsWritable ↔ Numeral.isOverlong line = false ∧ Numeral.isOverlong wait = false
      ∧ Numeral.isOverlong retries = false := by
  rw [← Json.isWritable_int, ← Json.isWritable_int, ← Json.isWritable_int, ← hline, ← hwait,
    ← hretries]
  exact ⟨fun h => ⟨h.line, h.intervalTime, h.retryCount⟩, fun ⟨h1, h2, h3⟩ => ⟨h1, h2, h3⟩⟩

/-- A number can be emitted exactly if it does not have too many digits. -/
theorem Script.exists_wholeNumber {n : Int} :
    (∃ s, Script.wholeNumber (.int n) = .ok s) ↔ Numeral.isOverlong n = false := by
  simp only [wholeNumber, Json.toInt, bind, Except.bind, Json.numeral]
  cases Numeral.isOverlong n <;> simp

/-- **A block call can be emitted exactly if its numbers can.** -/
theorem Script.exists_blockCall {b : Block} (hline : ∃ n, b.line = .int n)
    (hwait : ∃ n, b.intervalTime = .int n) (hretries : ∃ n, b.retryCount = .int n)
    (factory target : String) :
    (∃ code, Script.blockCall b factory target = .ok code) ↔ b.IsWritable := by
  obtain ⟨line, hline⟩ := hline
  obtain ⟨wait, hwait⟩ := hwait
  obtain ⟨retries, hretries⟩ := hretries
  rw [Block.isWritable_iff hline hwait hretries]
  simp only [blockCall, hline, hwait, hretries, bind_eq_ok, pure_eq_ok]
  constructor
  · rintro ⟨_, l, hl, w, hw, r, hr, _⟩
    exact ⟨exists_wholeNumber.mp ⟨l, hl⟩, exists_wholeNumber.mp ⟨w, hw⟩,
      exists_wholeNumber.mp ⟨r, hr⟩⟩
  · rintro ⟨hline, hwait, hretries⟩
    obtain ⟨l, hl⟩ := exists_wholeNumber.mpr hline
    obtain ⟨w, hw⟩ := exists_wholeNumber.mpr hwait
    obtain ⟨r, hr⟩ := exists_wholeNumber.mpr hretries
    exact ⟨_, l, hl, w, hw, r, hr, rfl⟩

end FlowTrace
