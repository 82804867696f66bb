/-
  FlowTrace.Block.Index
  ────────────────────────────────
  **A TABLE IN TWO PARTS.**

  A table that grows keeps the lines at which blocks start, in order, apart from the
  blocks, which a map from lines holds in the order in which their lines came.  A line is
  sought by halving, and its block is then taken from the map; that fails if the line is
  not in it.
-/
import FlowTrace.Block.Table

namespace FlowTrace

/-! ## §1. Halving. -/

/-- The place behind every line that is not greater, sought from `lo` on in front of `hi`. -/
def bisectFrom (lines : List Int) (line : Int) (lo hi : Nat) (h : hi ≤ lines.length) : Nat :=
  if hlo : lo < hi then
    have hmid : (lo + hi) / 2 < hi := by omega
    if line < lines[(lo + hi) / 2] then bisectFrom lines line lo ((lo + hi) / 2) (by omega)
    else bisectFrom lines line ((lo + hi) / 2 + 1) hi h
  else lo
termination_by hi - lo

/-- The place of a line among lines, behind those that are not greater. -/
def bisect (lines : List Int) (line : Int) : Nat :=
  bisectFrom lines line 0 lines.length (Nat.le_refl _)

/-- A place is none behind the end. -/
theorem bisectFrom_le (lines : List Int) (line : Int) (lo hi : Nat) (h : hi ≤ lines.length)
    (hlo : lo ≤ hi) : bisectFrom lines line lo hi h ≤ lines.length := by
  fun_induction bisectFrom lines line lo hi h with
  | case1 lo hi h hlt hmid hfront ih => exact ih (by omega)
  | case2 lo hi h hlt hmid hbehind ih => exact ih (by omega)
  | case3 lo hi h hge => omega

theorem bisect_le (lines : List Int) (line : Int) : bisect lines line ≤ lines.length :=
  bisectFrom_le lines line 0 lines.length (Nat.le_refl _) (Nat.zero_le _)

/-! ## §2. The two parts. -/

/-- A table in two parts. -/
structure LineIndex where
  /-- The lines, in order. -/
  lines : List Int := []
  /-- The blocks by their lines. -/
  blocks : List (Int × Block) := []
  deriving Inhabited

namespace LineIndex

/-- The block at a line, which has to be there. -/
def blockAt (ix : LineIndex) (line : Int) : Except Fault Block :=
  match Fields.get? ix.blocks line with
  | some b => .ok b
  | none => .error (.noKey (.int line))

/-- Put a block at a line.  The line is only sorted in if it is new. -/
def add (ix : LineIndex) (line : Int) (b : Block) : LineIndex where
  lines :=
    if Fields.contains ix.blocks line then ix.lines
    else ix.lines.insertIdx (bisect ix.lines line) line
  blocks := Fields.put line b ix.blocks

/-- Blocks that are put at their lines one after the other. -/
def addAll (ix : LineIndex) (es : List (Int × Block)) : LineIndex :=
  es.foldl (fun ix e => ix.add e.1 e.2) ix

/-- The index of entries put one after the other. -/
def ofList (es : List (Int × Block)) : LineIndex := addAll {} es

/-- The number of entries. -/
def size (ix : LineIndex) : Nat := ix.lines.length

/-- The block that starts at the line or is the nearest before it. -/
def lookup (ix : LineIndex) (line : Int) : Except Fault (Option Block) :=
  match hplace : bisect ix.lines line with
  | 0 => .ok none
  | k + 1 =>
      have hk : k < ix.lines.length := by
        have := bisect_le ix.lines line
        omega
      (ix.blockAt ix.lines[k]).map some

/-- The block at a line that a message gives. -/
def find (ix : LineIndex) (line : Json) : Except Fault (Option Block) :=
  if line.isNull || ix.lines.isEmpty then .ok none
  else line.toInt >>= ix.lookup

/-- The first of the lines whose block has the number. -/
def startAmong (ix : LineIndex) (blockLine : Json) : List Int → Except Fault (Option Int)
  | [] => .ok none
  | line :: rest => do
      if (← ix.blockAt line).line.same blockLine then pure (some line)
      else startAmong ix blockLine rest

/-- The first line whose block has the number `blockLine`. -/
def startLine (ix : LineIndex) (blockLine : Json) : Except Fault (Option Int) :=
  ix.startAmong blockLine ix.lines

/-- The entries, in the order of their lines. -/
def entries (ix : LineIndex) : Except Fault (List (Int × Block)) :=
  ix.lines.mapM (fun line => (ix.blockAt line).map (fun b => (line, b)))

end LineIndex
end FlowTrace
