/-
  FlowTrace.Proofs.Debug.PlaceText
  ────────────────────────────────
  **BREAKPOINTS FROM TEXT.**

  The text of a place is an address, a colon and a line.  An address may hold colons of its
  own, as those behind a scheme, a drive and a host; a line holds none, so the last colon
  of the text is the one between them.  There are three kinds of texts:

      no place         — no colon, or no address in front of the last one
      no line          — a place, but what stands behind the colon is no whole number that
                         is read
      address and line — a breakpoint there, which is not armed
-/
import FlowTrace.Debug.Breakpoint
import FlowTrace.Proofs.Number.WholeForm

namespace FlowTrace
namespace Breakpoint

/-! ## §1. The last colon. -/

theorem ne_colon_of_not_mem {cs : List Char} (h : ':' ∉ cs) :
    ∀ c ∈ cs.reverse, (c != ':') = true := by
  intro c hc
  simp only [bne_iff_ne]
  rintro rfl
  exact h (List.mem_reverse.mp hc)

/-- A text is split at a colon that no other follows. -/
theorem splitLastColon?_append {url line : List Char} (hline : ':' ∉ line) :
    splitLastColon? (url ++ ':' :: line) = some (url, line) := by
  have hreverse : (url ++ ':' :: line).reverse = line.reverse ++ ':' :: url.reverse := by simp
  have hbehind := ne_colon_of_not_mem hline
  unfold splitLastColon?
  rw [hreverse, List.dropWhile_append_of_pos hbehind, List.takeWhile_append_of_pos hbehind,
    List.dropWhile_cons_of_neg (by decide), List.takeWhile_cons_of_neg (by decide)]
  simp

theorem splitLastColon?_of_not_mem {cs : List Char} (h : ':' ∉ cs) :
    splitLastColon? cs = none := by
  unfold splitLastColon?
  rw [List.dropWhile_eq_nil_iff.mpr (ne_colon_of_not_mem h)]

/-- A text with a colon has a last one. -/
theorem exists_last_colon {cs : List Char} (h : ':' ∈ cs) :
    ∃ url line, cs = url ++ ':' :: line ∧ ':' ∉ line := by
  obtain ⟨line, url, hcs, hline⟩ := List.eq_append_cons_of_mem (List.mem_reverse.mpr h)
  refine ⟨url.reverse, line.reverse, ?_, by simpa using hline⟩
  rw [← List.reverse_reverse cs, hcs]
  simp

/-! ## §2. Places. -/

/-- The text is a place: an address and a line, with the last colon between them. -/
structure IsPlace (s url line : String) : Prop where
  text : s = url ++ ":" ++ line
  address : url ≠ ""
  last : ':' ∉ line.toList

theorem IsPlace.toList {s url line : String} (h : IsPlace s url line) :
    s.toList = url.toList ++ ':' :: line.toList := by
  rw [h.text, String.toList_append, String.toList_append, List.append_assoc]
  rfl

/-- A place is split into its address and its line. -/
theorem IsPlace.split {s url line : String} (h : IsPlace s url line) : ∃ c rest,
    splitLastColon? s.toList = some (c :: rest, line.toList) ∧ String.ofList (c :: rest) = url := by
  obtain ⟨c, rest, hurl⟩ := List.exists_cons_of_ne_nil (mt String.toList_eq_nil_iff.mp h.address)
  refine ⟨c, rest, ?_, ?_⟩
  · rw [h.toList, splitLastColon?_append h.last, hurl]
  · rw [← hurl, String.ofList_toList]

/-- **A place whose line is read is a breakpoint there.** -/
theorem IsPlace.ofText_read {s url line : String} {n : ℤ} (h : IsPlace s url line)
    (hread : Numeral.readInt? line = some n) :
    ofText s = .ok { url := .str url, line := .int n } := by
  obtain ⟨c, rest, hsplit, hurl⟩ := h.split
  simp only [ofText, hsplit, String.ofList_toList, hread, hurl]

/-- A place whose line is not read is none. -/
theorem IsPlace.ofText_unread {s url line : String} (h : IsPlace s url line)
    (hread : Numeral.readInt? line = none) :
    ofText s = .error (.badValue ("invalid breakpoint line in " ++ quoted s)) := by
  obtain ⟨c, rest, hsplit, -⟩ := h.split
  simp only [ofText, hsplit, String.ofList_toList, hread]

/-- What is no place is no breakpoint. -/
theorem ofText_of_not_place {s : String} (h : ¬ ∃ url line, IsPlace s url line) :
    ofText s = .error (.badValue ("breakpoint must be URL:LINE, got " ++ quoted s)) := by
  unfold ofText
  by_cases hcolon : ':' ∈ s.toList
  · obtain ⟨url, line, hs, hline⟩ := exists_last_colon hcolon
    have hurl : url = [] := by
      by_contra hne
      refine h ⟨String.ofList url, String.ofList line, ?_, ?_, ?_⟩
      · rw [← String.toList_inj, hs]
        simp
      · simpa using hne
      · simpa using hline
    rw [hs, splitLastColon?_append hline, hurl]
  · rw [splitLastColon?_of_not_mem hcolon]

/-- **A text is a breakpoint exactly if it is a place whose line is read.** -/
theorem ofText_eq_ok_iff {s : String} {bp : Breakpoint} :
    ofText s = .ok bp ↔ ∃ url line n, IsPlace s url line ∧ Numeral.readInt? line = some n
      ∧ bp = { url := .str url, line := .int n } := by
  constructor
  · intro h
    by_cases hplace : ∃ url line, IsPlace s url line
    · obtain ⟨url, line, hplace⟩ := hplace
      cases hread : Numeral.readInt? line with
      | none =>
        rw [hplace.ofText_unread hread] at h
        cases h
      | some n =>
        rw [hplace.ofText_read hread] at h
        exact ⟨url, line, n, hplace, hread, (Except.ok.inj h).symm⟩
    · rw [ofText_of_not_place hplace] at h
      cases h
  · rintro ⟨url, line, n, hplace, hread, rfl⟩
    exact hplace.ofText_read hread

/-- A written number holds no colon, so it may be the line of a place. -/
theorem isPlace_written {url : String} (hurl : url ≠ "") (n : ℤ) :
    IsPlace (url ++ ":" ++ toString n) url (toString n) := by
  refine ⟨rfl, hurl, ?_⟩
  have hdigits : ':' ∉ Nat.toDigits 10 n.natAbs := by
    intro h
    exact absurd (isDigit_of_mem_digits h) (by decide)
  rw [toList_toString_int, intChars]
  split
  · simpa using hdigits
  · exact hdigits

/-! ## §3. The law. -/

/-- **BREAKPOINTS FROM TEXT.**  An address, a colon and a written number are a breakpoint
at that line, unless the number has too many digits.  Besides, the texts of breakpoints
are the places whose line spells a whole number in not too many digits, and the breakpoint
stands at the address and that number.  Every other text is refused, with the reason. -/
theorem ofText_exactly :
    (∀ (url : String) (n : ℤ), url ≠ "" →
        ofText (url ++ ":" ++ toString n)
          = if Numeral.isOverlong n then
              .error (.badValue
                ("invalid breakpoint line in " ++ quoted (url ++ ":" ++ toString n)))
            else .ok { url := .str url, line := .int n })
      ∧ (∀ (s : String) (bp : Breakpoint), ofText s = .ok bp
          ↔ ∃ url line n, IsPlace s url line ∧ Numeral.Spells line.toList n
              ∧ line.toList.countP DecimalDigit.isDigit ≤ Numeral.digitLimit
              ∧ bp = { url := .str url, line := .int n })
      ∧ ∀ s : String, (∃ bp, ofText s = .ok bp)
          ∨ (∃ url line, IsPlace s url line)
              ∧ ofText s = .error (.badValue ("invalid breakpoint line in " ++ quoted s))
          ∨ (¬ ∃ url line, IsPlace s url line)
              ∧ ofText s
                = .error (.badValue ("breakpoint must be URL:LINE, got " ++ quoted s)) := by
  refine ⟨?_, ?_, ?_⟩
  · intro url n hurl
    have hread := Numeral.readInt?_written n
    by_cases hlong : Numeral.isOverlong n = true
    · rw [if_pos hlong] at hread ⊢
      exact (isPlace_written hurl n).ofText_unread hread
    · rw [if_neg hlong] at hread ⊢
      exact (isPlace_written hurl n).ofText_read hread
  · intro s bp
    simp only [ofText_eq_ok_iff, Numeral.readInt?_eq_some_iff, and_assoc]
  · intro s
    -- there is a colon behind some address and the line is read, or one of the two is missing
    by_cases hplace : ∃ url line, IsPlace s url line
    · obtain ⟨url, line, h⟩ := hplace
      cases hread : Numeral.readInt? line with
      | none => exact .inr (.inl ⟨⟨url, line, h⟩, h.ofText_unread hread⟩)
      | some n => exact .inl ⟨_, h.ofText_read hread⟩
    · exact .inr (.inr ⟨hplace, ofText_of_not_place hplace⟩)

/-- A host with a port, and a line in digits of another script with blanks around it. -/
theorem ofText_exactly_port :
    "ws://h:9222/a.js" ≠ ""
      ∧ ofText ("ws://h:9222/a.js" ++ ":" ++ toString (-12))
        = .ok { url := .str "ws://h:9222/a.js", line := .int (-12) }
      ∧ ofText "ws://h:9222/a.js: +\u0661_\u0662\n"
        = .ok { url := .str "ws://h:9222/a.js", line := .int 12 } := by
  have haddress : "ws://h:9222/a.js" ≠ "" := by decide
  have hshort : Numeral.isOverlong (-12) = false := by decide +kernel
  have hwritten := ofText_exactly.1 "ws://h:9222/a.js" (-12) haddress
  rw [hshort] at hwritten
  have hplace : IsPlace "ws://h:9222/a.js: +\u0661_\u0662\n" "ws://h:9222/a.js"
      " +\u0661_\u0662\n" := ⟨by decide, haddress, by decide⟩
  have hspells : Numeral.Spells " +\u0661_\u0662\n".toList 12 :=
    ⟨⟨[' '], some '+', ['\u0661', '_', '\u0662'], ['\n']⟩,
      ⟨List.forall_mem_singleton.mpr (by decide), by decide,
        .grouped (by decide) (.last (by decide)), List.forall_mem_singleton.mpr (by decide)⟩,
      by decide, by decide⟩
  refine ⟨haddress, hwritten, (ofText_exactly.2.1 _ _).mpr ?_⟩
  exact ⟨_, _, 12, hplace, hspells, by decide, rfl⟩

/-- A line with one digit too many is refused. -/
theorem overlong_line_refused :
    ¬ ∃ bp, ofText ("u" ++ ":" ++ toString (Numeral.digitBound : ℤ)) = .ok bp := by
  rintro ⟨bp, h⟩
  have hlong : Numeral.isOverlong Numeral.digitBound = true :=
    decide_eq_true (Int.natAbs_natCast Numeral.digitBound).ge
  have hread := Numeral.readInt?_written Numeral.digitBound
  rw [if_pos hlong] at hread
  rw [(isPlace_written (by decide) _).ofText_unread hread] at h
  cases h

end Breakpoint
end FlowTrace
