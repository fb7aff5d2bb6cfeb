import SheetFill.CommandLine.Words

/-!
# Arguments of a command line

The words of a command line are dealt out to the options and to the places that a grammar has.
Options and places may alternate; a place takes one word, or a command with all that follows it.
What nothing takes is left over.
-/
namespace SheetFill.CommandLine

/-- A place for arguments outside of options: a single word, or a word with all words behind it. -/
inductive Place where
  | single (name : String)
  | rest (name : String)
  deriving DecidableEq, Repr

def Place.name : Place → String
  | .single name => name
  | .rest name => name

structure Grammar where
  flags : List Flag
  places : List Place
  deriving DecidableEq, Repr

inductive UsageError where
  | required (names : List String)
  | unrecognized (words : List String)
  | oneExpected (title : String)
  | valueIgnored (title value : String)
  | invalidChoice (place word : String) (choices : List String)
  | ambiguous (word : String) (names : List String)
  deriving DecidableEq, Repr

def UsageError.message : UsageError → String
  | .required names => "the following arguments are required: " ++ ", ".intercalate names
  | .unrecognized words => "unrecognized arguments: " ++ " ".intercalate words
  | .oneExpected title => "argument " ++ title ++ ": expected one argument"
  | .valueIgnored title value =>
    "argument " ++ title ++ ": ignored explicit argument " ++ Text.quoted value
  | .invalidChoice place word choices =>
    "argument " ++ place ++ ": invalid choice: " ++ Text.quoted word ++ " (choose from " ++
      ", ".intercalate (choices.map fun (c : String) => Text.quoted c) ++ ")"
  | .ambiguous word names =>
    "ambiguous option: " ++ word ++ " could match " ++ ", ".intercalate names

inductive Stop where
  | help
  | usage (e : UsageError)
  deriving DecidableEq, Repr

abbrev Marked := List Char × WordKind

/-- What the words are. All words behind the first separator are arguments. -/
def mark (flags : List Flag) : List (List Char) → Except UsageError (List Marked)
  | [] => .ok []
  | word :: rest =>
    match wordKind flags word with
    | .error names =>
      .error (.ambiguous (String.ofList word) (names.map String.ofList))
    | .ok .separator => .ok ((word, .separator) :: rest.map (fun w => (w, .argument)))
    | .ok kind => (mark flags rest).map ((word, kind) :: ·)

def Marked.isArgument (w : Marked) : Bool := w.2 == .argument

def Marked.isSeparator (w : Marked) : Bool := w.2 == .separator

def Marked.isOption (w : Marked) : Bool := !w.isArgument && !w.isSeparator

/-- What was dealt out: arguments by the titles of options and the names of places, the latest
first, the places that are still empty, and what is left over. -/
structure Dealt where
  taken : List (String × List (List Char))
  unfilled : List Place
  leftOver : List (List Char)

def withoutSeparator (words : List (List Char)) : List (List Char) :=
  words.erase ['-', '-']

/-- The words at the head that a place takes and those behind them, if there is one for it. -/
def takePlace (place : Place) (words : List Marked) :
    Option (List (List Char) × List Marked) :=
  let front := words.takeWhile Marked.isSeparator
  match words.drop front.length with
  | [] => none
  | w :: rest =>
    if !w.isArgument then none
    else
      match place with
      | .rest _ => some (words.map (·.1), [])
      | .single _ =>
        let back := rest.takeWhile Marked.isSeparator
        some (withoutSeparator ((front ++ w :: back).map (·.1)), rest.drop back.length)

/-- Fills as many places as possible from the head of the words. -/
def fillPlaces (d : Dealt) : List Place → List Marked → Dealt × List Marked
  | [], words => ({ d with unfilled := [] }, words)
  | place :: more, words =>
    match takePlace place words with
    | none => ({ d with unfilled := place :: more }, words)
    | some (taken, rest) =>
      fillPlaces { d with taken := (place.name, taken) :: d.taken } more rest

/-- How an option that asks for help ends the reading when a value is attached to it. The value may
repeat the letter of the option, and anything else in it is refused. -/
def helpWith (flag : Flag) (letter : Char) : (value : List Char) → Stop
  | [] => .usage (.valueIgnored flag.title "")
  | c :: more =>
    if c != letter then .usage (.valueIgnored flag.title (String.ofList (c :: more)))
    else if more.isEmpty then .help
    else helpWith flag letter more

/-- What an option that asks for help ends with under one of its names. Under a long one it takes no
value at all. -/
def help (flag : Flag) (name : List Char) (attached : Option (List Char)) : Stop :=
  match attached, name with
  | none, _ => .help
  | some value, ['-', letter] => helpWith flag letter value
  | some value, _ => .usage (.valueIgnored flag.title (String.ofList value))

def takeFlag (d : Dealt) (flag : Flag) (name : List Char)
    (attached : Option (List Char)) (rest : List Marked) : Except Stop (Dealt × List Marked) :=
  let take (words : List (List Char)) (rest : List Marked) : Except Stop (Dealt × List Marked) :=
    .ok ({ d with taken := (flag.title, words) :: d.taken }, rest)
  match flag.takes, attached with
  | .help, attached => .error (help flag name attached)
  | _, some value => take (withoutSeparator [value]) rest
  | .one, none =>
    match rest with
    | w :: rest =>
      if w.isArgument then take [w.1] rest else .error (.usage (.oneExpected flag.title))
    | [] => .error (.usage (.oneExpected flag.title))
  | .many, none =>
    let words := rest.takeWhile Marked.isArgument
    take (words.map (·.1)) (rest.drop words.length)

/-- Deals out all words: places up to the next option, then the option, and behind the last option
the places that are left. -/
def deal : (fuel : Nat) → Dealt → List Marked → Except Stop Dealt
  | 0, d, _ => .ok d
  | fuel + 1, d, words =>
    if !words.any Marked.isOption then
      let (d, rest) := fillPlaces d d.unfilled words
      .ok { d with leftOver := d.leftOver ++ rest.map (·.1) }
    else
      match words with
      | [] => .ok d
      | (_, .flag flag name attached) :: rest =>
        match takeFlag d flag name attached rest with
        | .error stop => .error stop
        | .ok (d, rest) => deal fuel d rest
      | (word, .unknownFlag) :: rest =>
        deal fuel { d with leftOver := d.leftOver ++ [word] } rest
      | words =>
        let (filled, rest) := fillPlaces d d.unfilled words
        if rest.length < words.length then deal fuel filled rest
        else
          let skipped := words.takeWhile (!·.isOption)
          deal fuel { d with leftOver := d.leftOver ++ skipped.map (·.1) }
            (words.drop skipped.length)

/-- Deals out the words of a command line. Every place has to be filled. -/
def Grammar.read (g : Grammar) (words : List String) : Except Stop Dealt :=
  match mark g.flags (words.map String.toList) with
  | .error e => .error (.usage e)
  | .ok marked =>
    match deal (marked.length + 1) ⟨[], g.places, []⟩ marked with
    | .error stop => .error stop
    | .ok d =>
      if d.unfilled.isEmpty then .ok d
      else .error (.usage (.required (d.unfilled.map Place.name)))

def Dealt.arguments? (d : Dealt) (title : String) : Option (List String) :=
  (d.taken.lookup title).map (·.map String.ofList)

/-- What there is for a single argument: nothing was taken, a word, or a separator alone, which
leaves the argument without a word. -/
inductive Given where
  | nothing
  | noWord
  | word (w : String)
  deriving DecidableEq, Repr

def Dealt.argument (d : Dealt) (title : String) : Given :=
  match d.arguments? title with
  | none => .nothing
  | some [] => .noWord
  | some (w :: _) => .word w

end SheetFill.CommandLine
