/-
  FlowTrace.Arguments.Grammar
  ────────────────────────────────
  **WHAT A COMMAND LINE MAY HOLD.**

  A command line is read by a grammar: options, which may stand anywhere, and
  places, which are filled in order.  Each changes a record of settings.

      --name value, --name=value    — an option with a value; its name may be
                                      cut short as long as it stays unique
      -n value, -nvalue, -n=value   — the same with a one-letter name
      --                            — everything that follows fills places

  A word that begins with a hyphen is an option, known or not, unless it looks
  like a negative number or holds a blank.
-/
import FlowTrace.Text.DecimalDigit

namespace FlowTrace

/-- Why reading a command line ends early. -/
inductive ArgumentStop where
  /-- Help was asked for. -/
  | help
  | rejected
  deriving DecidableEq, Repr, Inhabited

/-- What an option does to the settings. -/
inductive OptionEffect (σ : Type) where
  /-- Ask for help. -/
  | help
  | set (change : σ → σ)
  /-- Take a value, if it is an acceptable one.  A `--` that is joined to the name
  is not taken for a value; `bare` is what it does instead. -/
  | take (change : String → σ → Option σ) (bare : σ → σ)

/-- An option: its names, hyphens included, and its effect. -/
structure OptionRule (σ : Type) where
  names : List String
  effect : OptionEffect σ

/-- A place for words. -/
inductive Place (σ : Type) where
  /-- One word, if it is an acceptable one.  A second `--` is not taken for a
  word; `bare` is what it does instead. -/
  | word (fill : String → σ → Option σ) (bare : σ → Option σ)
  /-- The name of a command, and everything after it as the command's own line. -/
  | command (choose : String → Option (List String → σ → Except ArgumentStop σ))

/-- The options and places of a command line. -/
structure Grammar (σ : Type) where
  options : List (OptionRule σ) := []
  places : List (Place σ)

/-- What is joined to the name of an option in one word. -/
inductive Joined where
  | nothing
  /-- A text after `=`. -/
  | equals (value : List Char)
  /-- What follows a one-letter name directly. -/
  | tail (value : List Char)
  deriving DecidableEq, Repr

/-- A word of a command line, looked at by itself. -/
inductive Part (σ : Type) where
  | word (text : List Char)
  /-- The first `--`. -/
  | separator
  /-- An option; `none` if it is unknown. -/
  | option (text : List Char) (use : Option (OptionRule σ × Joined))

variable {σ : Type}

namespace OptionRule

/-- Does the option take a value? -/
def takesValue (r : OptionRule σ) : Bool :=
  match r.effect with
  | .take _ _ => true
  | _ => false

/-- The option without a value. -/
def apply (r : OptionRule σ) (s : σ) : Except ArgumentStop σ :=
  match r.effect with
  | .help => .error .help
  | .set change => .ok (change s)
  | .take _ _ => .error .rejected

/-- The option with a value. -/
def applyTo (r : OptionRule σ) (value : List Char) (s : σ) : Except ArgumentStop σ :=
  match r.effect with
  | .take change bare =>
      if value = ['-', '-'] then .ok (bare s)
      else
        match change (String.ofList value) s with
        | some s => .ok s
        | none => .error .rejected
  | _ => .error .rejected

/-- The option that asks for help. -/
def help : OptionRule σ := { names := ["-h", "--help"], effect := .help }

/-- An option with a value that is kept as it stands. -/
def text (names : List String) (change : String → σ → σ) (bare : σ → σ) : OptionRule σ :=
  { names := names, effect := .take (fun v s => some (change v s)) bare }

end OptionRule

/-- A place for a word that is kept as it stands. -/
def Place.text (change : String → σ → σ) : Place σ :=
  .word (fun w s => some (change w s)) (fun _ => none)

/-! ## §1. Looking at words. -/

/-- The text before the first `=`, and what follows it. -/
def splitEquals (cs : List Char) : List Char × Option (List Char) :=
  match cs.dropWhile (· != '=') with
  | [] => (cs, none)
  | _ :: value => (cs.takeWhile (· != '='), some value)

/-- The text without a line feed at its end. -/
def dropFinalNewline (cs : List Char) : List Char :=
  match cs.reverse with
  | '\n' :: before => before.reverse
  | _ => cs

/-- Does the text look like a negative number: a hyphen and digits, or a hyphen,
digits if any, a point and digits? -/
def looksNegative (cs : List Char) : Bool :=
  match dropFinalNewline cs with
  | '-' :: rest =>
      match rest.dropWhile DecimalDigit.isDigit with
      | [] => !rest.isEmpty
      | '.' :: fraction => !fraction.isEmpty && fraction.all DecimalDigit.isDigit
      | _ => false
  | _ => false

namespace Part

/-- The word itself. -/
def text : Part σ → List Char
  | .word w => w
  | .separator => ['-', '-']
  | .option w _ => w

/-- Is the word an option? -/
def isOption : Part σ → Bool
  | .option _ _ => true
  | _ => false

end Part

namespace Grammar

variable (g : Grammar σ)

/-- Every name of an option, with the option. -/
def named : List (List Char × OptionRule σ) :=
  g.options.flatMap (fun r => r.names.map (fun n => (n.toList, r)))

/-- The option with a name. -/
def rule? (name : List Char) : Option (OptionRule σ) :=
  (g.named.find? (fun e => e.1 == name)).map Prod.snd

/-- What follows the `=` behind the whole name of an option.  Behind a one-letter
name that takes no value, letters are more one-letter names. -/
def joinedValue (name value : List Char) (r : OptionRule σ) : Joined :=
  match name, value with
  | ['-', _], _ :: _ => if r.takesValue then .equals value else .tail value
  | _, _ => .equals value

/-- The option whose whole name stands before an `=`. -/
def ruleWithValue? (cs : List Char) : Option (OptionRule σ × Joined) :=
  match splitEquals cs with
  | (name, some value) => (g.rule? name).map (fun r => (r, joinedValue name value r))
  | (_, none) => none

/-- The options that a word may stand for: those whose long names it begins, or
the one whose one-letter name begins it. -/
def candidates (cs : List Char) : List (OptionRule σ × Joined) :=
  match cs with
  | '-' :: '-' :: _ =>
      let parts := splitEquals cs
      let joined := match parts.2 with
        | some value => Joined.equals value
        | none => Joined.nothing
      (g.named.filter (fun e => parts.1.isPrefixOf e.1)).map (fun e => (e.2, joined))
  | _ =>
      g.named.filterMap (fun e =>
        if e.1 == cs.take 2 then some (e.2, .tail (cs.drop 2))
        else if cs.isPrefixOf e.1 then some (e.2, .nothing)
        else none)

/-- What a word is; `none` if it may stand for several options. -/
def classify (cs : List Char) : Option (Part σ) :=
  match cs with
  | '-' :: _ :: _ =>
      match (g.rule? cs).map (fun r => (r, Joined.nothing)) |>.or (g.ruleWithValue? cs) with
      | some use => some (.option cs (some use))
      | none =>
          match g.candidates cs with
          | [] => some (if looksNegative cs || cs.contains ' ' then .word cs else .option cs none)
          | [use] => some (.option cs (some use))
          | _ => none
  | _ => some (.word cs)

/-- What the words of a line are; `none` if one may stand for several options. -/
def parts : List (List Char) → Option (List (Part σ))
  | [] => some []
  | w :: rest =>
      if w = ['-', '-'] then some (.separator :: rest.map .word)
      else
        match g.classify w, parts rest with
        | some p, some ps => some (p :: ps)
        | _, _ => none

end Grammar

/-! ## §2. Filling places. -/

namespace Part

/-- The parts after the separators at the front. -/
def dropSeparators : List (Part σ) → List (Part σ)
  | .separator :: rest => dropSeparators rest
  | ps => ps

/-- Take a word with the separators around it.  The word is `none` if it is a
`--` that no separator stands beside. -/
def takeWord? (ps : List (Part σ)) : Option (Option (List Char) × List (Part σ)) :=
  match dropSeparators ps with
  | .word w :: rest =>
      let after := dropSeparators rest
      let separated := decide (after.length + 1 < ps.length)
      some (if w = ['-', '-'] ∧ separated = false then none else some w, after)
  | _ => none

end Part

namespace Place

/-- An acceptable change, or the rejection of the line. -/
def accept : Option σ → Except ArgumentStop σ
  | some s => .ok s
  | none => .error .rejected

/-- Fill as many places as possible from the parts at the front.  Gives the
settings with the places and the parts that are left. -/
def fillAll : List (Place σ) → List (Part σ) → σ →
    Except ArgumentStop (σ × List (Place σ) × List (Part σ))
  | [], ps, s => .ok (s, [], ps)
  | .word fill bare :: places, ps, s =>
      match Part.takeWord? ps with
      | none => .ok (s, .word fill bare :: places, ps)
      | some (w, after) =>
          match accept (match w with
            | some w => fill (String.ofList w) s
            | none => bare s) with
          | .error stop => .error stop
          | .ok s => fillAll places after s
  | .command choose :: places, ps, s =>
      match ps, Part.dropSeparators ps with
      | .word name :: _, .word _ :: after =>
          match choose (String.ofList name) with
          | none => .error .rejected
          | some read =>
              match read (after.map (fun p => String.ofList p.text)) s with
              | .error stop => .error stop
              | .ok s => fillAll places [] s
      | _, .word _ :: _ => .error .rejected
      | _, _ => .ok (s, .command choose :: places, ps)

end Place

/-! ## §3. Options. -/

/-- How a word of one-letter options ends. -/
inductive ClusterEnd (σ : Type) where
  /-- With an option that nothing is joined to. -/
  | plain (rule : OptionRule σ)
  | valued (rule : OptionRule σ) (value : List Char)

/-- The options that one-letter names in one word stand for: `rule` and then
those of the letters `cs`.  All but the last take no value; a letter that names
no option spoils the word. -/
def Grammar.cluster (g : Grammar σ) (rule : OptionRule σ) :
    List Char → Option (List (OptionRule σ) × ClusterEnd σ)
  | [] => some ([], .plain rule)
  | c :: cs =>
      if rule.takesValue then some ([], .valued rule (c :: cs))
      else
        match g.rule? ['-', c] with
        | none => none
        | some next => (cluster g next cs).map (fun r => (rule :: r.1, r.2))

/-- Apply options that take no value. -/
def applyEach (rules : List (OptionRule σ)) (s : σ) : Except ArgumentStop σ :=
  rules.foldlM (fun s r => r.apply s) s

/-- Apply the options of one word.  Gives the settings and the parts after it and
the value it takes. -/
def applyCluster (flags : List (OptionRule σ)) (after : List (Part σ)) (s : σ) :
    ClusterEnd σ → Except ArgumentStop (σ × List (Part σ))
  | .valued r value => do
      let s ← applyEach flags s
      let s ← r.applyTo value s
      pure (s, after)
  | .plain r =>
      if r.takesValue then
        match after with
        | .word value :: rest => do
            let s ← applyEach flags s
            let s ← r.applyTo value s
            pure (s, rest)
        | _ => .error .rejected
      else do
        let s ← applyEach flags s
        let s ← r.apply s
        pure (s, after)

/-- Apply an option as it stands in a word, before the parts `after`. -/
def Grammar.applyUse (g : Grammar σ) (rule : OptionRule σ) (after : List (Part σ)) (s : σ) :
    Joined → Except ArgumentStop (σ × List (Part σ))
  | .equals value => (rule.applyTo value s).map (fun s => (s, after))
  | .nothing => applyCluster [] after s (.plain rule)
  | .tail cs =>
      match g.cluster rule cs with
      | some (flags, last) => applyCluster flags after s last
      | none => .error .rejected

/-! ## §4. Reading a line. -/

/-- How far reading a line has come. -/
structure Progress (σ : Type) where
  settings : σ
  places : List (Place σ)
  parts : List (Part σ)
  /-- Was there a word that no place or option takes? -/
  strays : Bool := false

/-- The settings of a line that is read to its end: every place has to be filled
and every word taken. -/
def Progress.finish (p : Progress σ) : Except ArgumentStop σ :=
  if p.places.isEmpty && p.parts.isEmpty && !p.strays then .ok p.settings else .error .rejected

/-- Fill places from the front. -/
def Progress.fill (p : Progress σ) : Except ArgumentStop (Progress σ) :=
  (Place.fillAll p.places p.parts p.settings).map (fun r =>
    { p with settings := r.1, places := r.2.1, parts := r.2.2 })

namespace Grammar

/-- Read on.  Places are filled from the words in front of the next option; words
that no place takes are passed over up to it. -/
def advance (g : Grammar σ) (p : Progress σ) : Except ArgumentStop (Progress σ) :=
  match p.parts with
  | .option _ none :: after => .ok { p with parts := after, strays := true }
  | .option _ (some (rule, joined)) :: after =>
      (g.applyUse rule after p.settings joined).map (fun r =>
        { p with settings := r.1, parts := r.2 })
  | _ =>
      p.fill.map (fun q =>
        if q.parts.length < p.parts.length then q
        else { q with parts := q.parts.dropWhile (fun x => !x.isOption), strays := true })

/-- Read on until no option is left, in at most `fuel` steps, and then fill the
last places.  Every step takes a word, so as many steps as words are enough. -/
def run (g : Grammar σ) : Nat → Progress σ → Except ArgumentStop σ
  | 0, p => do (← p.fill).finish
  | fuel + 1, p =>
      if p.parts.any Part.isOption then do
        run g fuel (← g.advance p)
      else do (← p.fill).finish

/-- Read a line: the settings it makes of the given ones. -/
def read (g : Grammar σ) (settings : σ) (words : List String) : Except ArgumentStop σ :=
  match g.parts (words.map String.toList) with
  | none => .error .rejected
  | some parts => g.run parts.length { settings := settings, places := g.places, parts := parts }

end Grammar
end FlowTrace
