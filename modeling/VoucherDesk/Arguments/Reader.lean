import VoucherDesk.Arguments.Basic

/-!
# Reading arguments

Every text is first marked: two hyphens end the named arguments, a text that begins with a
hyphen names an argument unless it is a negative number or holds a space, and all else
stands by itself. A name may be cut short as long as only one name begins that way, a word
may follow its name after an equals sign, and short names without words may be run
together. Then the texts are taken in order. Texts that fit nowhere are collected and
refused in the end; the first other mistake ends the reading.
-/

namespace VoucherDesk.Arguments

/-- How a text names an argument. -/
structure Match where
  /-- The argument, none if there is none of that name. -/
  named : Option Named
  name : String
  /-- Whether an equals sign follows the name. -/
  isJoined : Bool := false
  /-- The word that follows the name in the same text. -/
  word : Option (List Char) := none

/-- What a text on a command line is. -/
inductive Mark where
  | plain
  | dashes
  | named (m : Match)

/-- The parts of a text before and after its first equals sign. -/
def cutAtEquals (s : String) : String × Option (List Char) :=
  let before := s.toList.takeWhile (· != '=')
  match s.toList.drop before.length with
  | _ :: after => (String.ofList before, some after)
  | [] => (s, none)

/-- Whether a text is a negative decimal number, a line feed after it left out of account. -/
def isNegativeNumber (s : String) : Bool :=
  let isDigit (c : Char) : Bool := Text.isDecimalCode c.toNat
  match s.toList with
  | '-' :: cs =>
    let cs := if cs.getLast? == some '\n' then cs.dropLast else cs
    let fraction := cs.dropWhile isDigit
    match fraction with
    | [] => !cs.isEmpty
    | '.' :: digits => !digits.isEmpty && digits.all isDigit
    | _ => false
  | _ => false

/-- The arguments that a text may name when it is no full name. -/
def candidates (p : Parser) (s : String) : List Match :=
  match s.toList with
  | '-' :: '-' :: _ =>
    let (start, word) := cutAtEquals s
    (p.allNames.filter fun n => n.1.startsWith start).map fun (name, n) =>
      { named := some n, name, isJoined := word.isSome, word }
  | '-' :: c :: rest =>
    p.allNames.filterMap fun (name, n) =>
      if name = String.ofList ['-', c] then some { named := some n, name, word := some rest }
      else if name.startsWith s then some { named := some n, name }
      else none
  | _ => []

/-- What a text is, other than two hyphens. -/
def markOf (p : Parser) (s : String) : Except Stop Mark :=
  if !s.startsWith "-" then .ok .plain
  else match p.allNames.lookup s with
    | some n => .ok (.named { named := some n, name := s })
    | none =>
      if s = "-" then .ok .plain
      else
        let (start, word) := cutAtEquals s
        match (if word.isSome then p.allNames.lookup start else none) with
        | some n => .ok (.named { named := some n, name := start, isJoined := true, word })
        | none =>
          match candidates p s with
          | [m] => .ok (.named m)
          | [] =>
            if isNegativeNumber s || s.toList.contains ' ' then .ok .plain
            else .ok (.named { named := none, name := s })
          | ms =>
            .error (.refused ("ambiguous option: " ++ s ++ " could match "
              ++ ", ".intercalate (ms.map Match.name)))

/-- What the texts of a command line are; after two hyphens all stand by themselves. -/
def markAll (p : Parser) : List String → Except Stop (List (String × Mark))
  | [] => .ok []
  | s :: rest =>
    if s = "--" then .ok ((s, .dashes) :: rest.map fun t => (t, .plain))
    else do
      let mark ← markOf p s
      let marks ← markAll p rest
      return (s, mark) :: marks

/-- A mistake about a named argument. -/
def mistake (n : Named) (message : String) : Stop :=
  .refused ("argument " ++ n.title ++ ": " ++ message)

/-- What a match asks to be done: arguments with their words in order, and what fits nowhere. -/
structure Steps where
  steps : List (Named × Option String) := []
  extra : Option String := none
  /-- Whether the next text was taken as a word. -/
  tookNext : Bool := false

/-- An argument that no word follows in the same text. -/
def bareSteps (n : Named) (next : Option String) : Except Stop Steps :=
  if n.takesWord then
    match next with
    | some word => .ok { steps := [(n, some word)], tookNext := true }
    | none => .error (mistake n "expected one argument")
  else .ok { steps := [(n, none)] }

/-- The mistake of a word that nothing takes. -/
def ignored (n : Named) (word : List Char) : Stop :=
  mistake n ("ignored explicit argument " ++ Text.quoted (String.ofList word))

/-- An argument with the word that follows in the same text; after a short name without a word,
the text goes on with another short name. -/
def joinedSteps (p : Parser) (next : Option String) (n : Named) (isShort isJoined : Bool) :
    List Char → Except Stop Steps
  | [] => if n.takesWord then .ok { steps := [(n, some "")] } else .error (ignored n [])
  | c :: rest =>
    if n.takesWord then .ok { steps := [(n, some (String.ofList (c :: rest)))] }
    else if !isShort || isJoined || c = '-' then .error (ignored n (c :: rest))
    else match p.allNames.lookup (String.ofList ['-', c]) with
      | none => .ok { steps := [(n, none)], extra := some (String.ofList ('-' :: c :: rest)) }
      | some m => do
        let later ← match rest with
          | [] => bareSteps m next
          | '=' :: word => joinedSteps p next m true true word
          | d :: word => joinedSteps p next m true false (d :: word)
        return { later with steps := (n, none) :: later.steps }

/-- What a match asks to be done. -/
def stepsOf (p : Parser) (s : String) (m : Match) (next : Option String) : Except Stop Steps :=
  match m.named with
  | none => .ok { extra := some s }
  | some n =>
    match m.word with
    | none => bareSteps n next
    | some word => joinedSteps p next n (!m.name.startsWith "--") m.isJoined word

/-- What has been read. -/
structure Given where
  values : Fields := []
  /-- The texts that fit nowhere. -/
  extras : List String := []
  /-- The command with its texts. -/
  command : Option (List String) := none

/-- Does what a named argument asks. -/
def perform (g : Given) (n : Named) (word : Option String) : Except Stop Given :=
  match n.action with
  | .help => .error .help
  | .flag b => .ok { g with values := g.values.put n.field (.bool b) }
  | .word kind =>
    match kind.read (word.getD "") with
    | .ok v => .ok { g with values := g.values.put n.field v }
    | .error message => .error (mistake n message)

/-- Does what a match asks, in order. -/
def performAll (g : Given) (s : Steps) : Except Stop Given := do
  let g ← s.steps.foldlM (fun g (n, word) => perform g n word) g
  return { g with extras := g.extras ++ s.extra.toList }

/-- Whether a text may still stand by itself. -/
def isOpen (p : Parser) (g : Given) : Bool :=
  match p.standing with
  | .nothing => false
  | .word field => (g.values.get? field).isNone
  | .command .. => g.command.isNone

/-- Takes a word that stands by itself; a command takes all texts after it as well. -/
def takeWord (p : Parser) (g : Given) (word : String) : Given :=
  match p.standing with
  | .word field => { g with values := g.values.put field (.text word) }
  | _ => g

/-- Whether a command takes all texts from here on. -/
def takesAll (p : Parser) : Bool :=
  match p.standing with
  | .command .. => true
  | _ => false

/-- Takes marked texts in order. -/
def takeAll (p : Parser) : List (String × Mark) → Given → Except Stop Given
  | [], g => .ok g
  | (s, .named m) :: rest, g =>
    match rest with
    | (word, .plain) :: later => do
      let steps ← stepsOf p s m (some word)
      let g ← performAll g steps
      if steps.tookNext then takeAll p later g else takeAll p ((word, .plain) :: later) g
    | rest => do
      let steps ← stepsOf p s m none
      let g ← performAll g steps
      takeAll p rest g
  | (s, .plain) :: rest, g =>
    if !isOpen p g then takeAll p rest { g with extras := g.extras ++ [s] }
    else if takesAll p then .ok { g with command := some (s :: rest.map Prod.fst) }
    else match rest with
      | (_, .dashes) :: later => takeAll p later (takeWord p g s)
      | rest => takeAll p rest (takeWord p g s)
  | (s, .dashes) :: rest, g =>
    match rest with
    | (word, .plain) :: later =>
      if !isOpen p g then
        takeAll p ((word, .plain) :: later) { g with extras := g.extras ++ [s] }
      else if takesAll p then .ok { g with command := some (s :: word :: later.map Prod.fst) }
      else takeAll p later (takeWord p g word)
    | rest => takeAll p rest { g with extras := g.extras ++ [s] }

/-- The arguments that are required but were not given. -/
def missing (p : Parser) (g : Given) : List String :=
  let named := p.named.filter fun n => n.isRequired && (g.values.get? n.field).isNone
  let standing := match p.standing with
    | .word field => if isOpen p g then [field] else []
    | .command field _ => if isOpen p g then [field] else []
    | .nothing => []
  named.map Named.title ++ standing

/-- Reads the texts of a command line up to its command. -/
def Parser.read (p : Parser) (texts : List String) : Except Stop Given := do
  let marks ← markAll p texts
  let g ← takeAll p marks {}
  match missing p g with
  | [] => return g
  | names => .error (.refused ("the following arguments are required: " ++ ", ".intercalate names))

/-- A command line that was read: the command, if there are commands, and all values. -/
structure Reading where
  command : Option String := none
  values : Fields

/-- Reads the texts of a command line; a stop comes with the command line that it belongs to. -/
def Tool.read (t : Tool) (texts : List String) : Except (Parser × Stop) Reading := do
  let g ← (t.parser.read texts).mapError fun stop => (t.parser, stop)
  let (extras, reading) ← match g.command, t.parser.standing with
    | some (name :: rest), .command field choices =>
      match t.commands.lookup name with
      | none =>
        let names := ", ".intercalate (choices.map fun c => Text.quoted c.1)
        .error (t.parser, .refused ("argument " ++ field ++ ": invalid choice: " ++ Text.quoted name
          ++ " (choose from " ++ names ++ ")"))
      | some p =>
        let h ← (p.read rest).mapError fun stop => (p, stop)
        pure (g.extras ++ h.extras,
          { command := some name, values := Fields.ofPairs (g.values ++ h.values) : Reading })
    | _, _ => pure (g.extras, { values := g.values : Reading })
  if extras.isEmpty then return reading
  else .error (t.parser, .refused ("unrecognized arguments: " ++ " ".intercalate extras))

end VoucherDesk.Arguments
