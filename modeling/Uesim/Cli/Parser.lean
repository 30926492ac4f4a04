import Uesim.Library.Text
import Uesim.Types

/-!
# The command line

A command is a verb and what it is about, in either order, and arguments. No word but one stands for a verb and for
a noun, so that the order does not matter.
-/

namespace Uesim

open Bytes Text

def cliMaxArgs : Nat := 32

def maxUeInstances : Nat := 1024

inductive CliNoun where
  | none
  | ue
  | gnb
  | session
  | qos
  | scenario
  | loadtest
  | config
  | system
  | script
  | meas
  | nas
  deriving DecidableEq, Repr

def CliNoun.name : CliNoun → String
  | none => "none"
  | ue => "ue"
  | gnb => "gnb"
  | session => "session"
  | qos => "qos"
  | scenario => "scenario"
  | loadtest => "loadtest"
  | config => "config"
  | system => "system"
  | script => "script"
  | meas => "meas"
  | nas => "nas"

/-- `g_noun_strings`, in the order in which it is searched. -/
def cliNouns : List CliNoun :=
  [.none, .ue, .gnb, .session, .qos, .scenario, .loadtest, .config, .system, .script, .meas, .nas]

inductive CliVerb where
  | none
  | start
  | stop
  | status
  | list
  | add
  | remove
  | connect
  | disconnect
  | create
  | release
  | modify
  | run
  | show'
  | set
  | load
  | save
  | validate
  | select
  | history
  | record
  | info
  | benchmark
  | help
  | exit
  deriving DecidableEq, Repr

def CliVerb.name : CliVerb → String
  | none => "none"
  | start => "start"
  | stop => "stop"
  | status => "status"
  | list => "list"
  | add => "add"
  | remove => "remove"
  | connect => "connect"
  | disconnect => "disconnect"
  | create => "create"
  | release => "release"
  | modify => "modify"
  | run => "run"
  | show' => "show"
  | set => "set"
  | load => "load"
  | save => "save"
  | validate => "validate"
  | select => "select"
  | history => "history"
  | record => "record"
  | info => "info"
  | benchmark => "benchmark"
  | help => "help"
  | exit => "exit"

/-- `g_verb_strings` -/
def cliVerbs : List CliVerb :=
  [.none, .start, .stop, .status, .list, .add, .remove, .connect, .disconnect, .create, .release, .modify, .run,
    .show', .set, .load, .save, .validate, .select, .history, .record, .info, .benchmark, .help, .exit]

/-- The item whose name the string is, whatever the case of its letters. -/
def cliLookup {α : Type} (items : List α) (name : α → String) (default : α) (str : List Byte) : α :=
  (items.find? fun item => eqIgnoreCase str (text (name item))).getD default

def cliStringToNoun : List Byte → CliNoun := cliLookup cliNouns CliNoun.name .none

def cliStringToVerb : List Byte → CliVerb := cliLookup cliVerbs CliVerb.name .none

structure CliParsedCmd where
  verb : CliVerb
  noun : CliNoun
  rawLine : List Byte
  args : List (List Byte)
  errorMsg : Option String
  valid : Bool
  deriving DecidableEq

/-! ### Parsing -/

/-- `isspace` -/
def isCSpace (b : Byte) : Bool := isSpace b || b = 0x0B || b = 0x0C

/-- The delimiters of the words of a command. -/
def isCliBlank (b : Byte) : Bool := isBlank b || b = byte '\n'

/-- What stands before the first `&&`. -/
def beforeChain : List Byte → List Byte
  | a :: b :: rest => if a = byte '&' ∧ b = byte '&' then [] else a :: beforeChain (b :: rest)
  | line => line

def cliRawLine (line : List Byte) : List Byte := beforeChain (line.dropWhile isCSpace)

def cliTokens (line : List Byte) : List (List Byte) := (wordsFrom isCliBlank [] (cliRawLine line)).take cliMaxArgs

/-- Verb, noun and arguments, if the first word is one of the first two. -/
def cliParseTokens (first : List Byte) : List (List Byte) → Option (CliVerb × CliNoun × List (List Byte))
  | [] => if cliStringToVerb first = .none then none else some (cliStringToVerb first, .none, [])
  | second :: others =>
      if cliStringToNoun first ≠ .none then
        some (cliStringToVerb second, cliStringToNoun first,
          if cliStringToVerb second = .none then second :: others else others)
      else if cliStringToVerb first ≠ .none then
        some (cliStringToVerb first, cliStringToNoun second,
          if cliStringToNoun second = .none then second :: others else others)
      else none

def cliParseLine (line : List Byte) : CliParsedCmd × Except UesimError Unit :=
  if line.dropWhile isCSpace = [] then (⟨.none, .none, [], [], none, false⟩, .ok ())
  else
    match cliTokens line with
    | [] => (⟨.none, .none, cliRawLine line, [], none, false⟩, .ok ())
    | first :: rest =>
        match cliParseTokens first rest with
        | none => (⟨.none, .none, cliRawLine line, [], some "Unknown command", false⟩, .error .invalidParam)
        | some (verb, noun, args) => (⟨verb, noun, cliRawLine line, args, none, true⟩, .ok ())

/-! ### Validation -/

structure CliErrorCtx where
  error : UesimError
  message : String
  suggestion : String
  deriving DecidableEq, Repr

/-- `atoi`: blanks, a sign and digits. What it makes of a number that is no `int` is left open by the language. -/
def cliAtoi (overflow : Int → Int) (arg : List Byte) : Int :=
  let start := arg.dropWhile isCSpace
  let digits := if start.head? = some (byte '-') ∨ start.head? = some (byte '+') then start.tail else start
  let magnitude : Int := decimalValue (digits.takeWhile isDigit)
  let value := if start.head? = some (byte '-') then -magnitude else magnitude
  if -2 ^ 31 ≤ value ∧ value < 2 ^ 31 then value else overflow value

def cliArg (cmd : CliParsedCmd) : List Byte := cmd.args.headD []

/-- The command with its number of arguments: the counts that are too small, and the numbers that are out of range. -/
def cliValidateArgs (overflow : Int → Int) (selectedUeId : Int) (cmd : CliParsedCmd) : Option CliErrorCtx :=
  let count := cmd.args.length
  let value := cliAtoi overflow (cliArg cmd)
  match cmd.noun, cmd.verb with
  | .ue, .start =>
      if count = 1 ∧ (value ≤ 0 ∨ (maxUeInstances : Int) < value) then
        some ⟨.invalidParam, "Invalid UE count", "Use 'ue start <1-1024>'"⟩
      else none
  | .ue, .stop =>
      if count = 0 then some ⟨.invalidParam, "UE ID required", "Use 'ue stop <id>' or 'ue stop all'"⟩
      else if eqIgnoreCase (cliArg cmd) (text "all") = false ∧ (value < 0 ∨ (maxUeInstances : Int) ≤ value) then
        some ⟨.notFound, "Invalid UE ID", "Use 'ue stop <0-1023>' or 'ue stop all'"⟩
      else none
  | .ue, .select =>
      if count = 0 then some ⟨.invalidParam, "UE ID required", "Use 'ue select <id>'"⟩ else none
  | .gnb, .add =>
      if count < 3 then
        some ⟨.invalidParam, "Insufficient arguments", "Use 'gnb add <id> <ip> <port> [type]'"⟩
      else none
  | .gnb, .connect =>
      if count < 2 then some ⟨.invalidParam, "Insufficient arguments", "Use 'gnb connect <ue> <gnb>'"⟩ else none
  | .session, .create | .session, .list =>
      if count = 0 ∧ selectedUeId < 0 then
        some ⟨.invalidParam, "UE ID required", "Use 'session create <ue>' or select a UE first"⟩
      else none
  | .scenario, .run =>
      if count = 0 then some ⟨.invalidParam, "Scenario type required", "Use 'scenario run <type> [ue]'"⟩ else none
  | .config, .set =>
      if count < 2 then
        some ⟨.invalidParam, "Insufficient arguments", "Use 'config set <section.key> <value>'"⟩
      else none
  | _, _ => none

/-! ### Words that stand for something -/

theorem eqIgnoreCase_iff {a b : List Byte} : eqIgnoreCase a b = true ↔ a.map lower = b.map lower :=
  decide_eq_true_iff

/-- **A word stands for what it is the name of**, if no two names differ in nothing but the case of their letters. -/
theorem cliLookup_eq_iff {α : Type} {items : List α} {name : α → String} {default item : α} {word : List Byte}
    (hnodup : (items.map fun item => (text (name item)).map lower).Nodup) (hmem : item ∈ items)
    (hne : item ≠ default) :
    cliLookup items name default word = item ↔ eqIgnoreCase word (text (name item)) = true := by
  rw [cliLookup]
  constructor
  · intro h
    cases hfind : items.find? fun item => eqIgnoreCase word (text (name item)) with
    | none =>
        rw [hfind] at h
        exact absurd h.symm hne
    | some found =>
        rw [hfind, Option.getD_some] at h
        have hfound := List.find?_some hfind
        rwa [h] at hfound
  · intro hname
    have hsome : (items.find? fun item => eqIgnoreCase word (text (name item))).isSome = true :=
      List.find?_isSome.mpr ⟨item, hmem, hname⟩
    obtain ⟨found, hfind⟩ := Option.isSome_iff_exists.mp hsome
    have hfound := List.find?_some hfind
    have hsame : (text (name found)).map lower = (text (name item)).map lower :=
      (eqIgnoreCase_iff.mp hfound).symm.trans (eqIgnoreCase_iff.mp hname)
    rw [hfind, Option.getD_some]
    exact List.inj_on_of_nodup_map hnodup (List.mem_of_find?_eq_some hfind) hmem hsame

theorem cliStringToNoun_eq_iff {word : List Byte} {noun : CliNoun} (hnoun : noun ≠ .none) :
    cliStringToNoun word = noun ↔ eqIgnoreCase word (text noun.name) = true :=
  cliLookup_eq_iff (by decide +kernel) (by cases noun <;> decide) hnoun

theorem cliStringToVerb_eq_iff {word : List Byte} {verb : CliVerb} (hverb : verb ≠ .none) :
    cliStringToVerb word = verb ↔ eqIgnoreCase word (text verb.name) = true :=
  cliLookup_eq_iff (by decide +kernel) (by cases verb <;> decide) hverb

theorem names_disjoint : ∀ noun ∈ cliNouns, ∀ verb ∈ cliVerbs, noun ≠ .none → verb ≠ .none →
    (text noun.name).map lower ≠ (text verb.name).map lower := by
  decide +kernel

/-- **No word stands for a noun and for a verb.** -/
theorem cliStringToVerb_of_noun {word : List Byte} (h : cliStringToNoun word ≠ .none) :
    cliStringToVerb word = .none := by
  by_contra hverb
  have hnoun := (cliStringToNoun_eq_iff h).mp rfl
  have hname := (cliStringToVerb_eq_iff hverb).mp rfl
  refine names_disjoint _ ?_ _ ?_ h hverb ((eqIgnoreCase_iff.mp hnoun).symm.trans (eqIgnoreCase_iff.mp hname))
  · cases cliStringToNoun word <;> decide
  · cases cliStringToVerb word <;> decide

/-! ### What is parsed -/

section Parse

variable {first : List Byte} {rest args : List (List Byte)} {verb : CliVerb} {noun : CliNoun}

theorem cliParseTokens_eq_some_iff (hverb : verb ≠ .none) (hnoun : noun ≠ .none) :
    cliParseTokens first rest = some (verb, noun, args)
      ↔ ∃ second, rest = second :: args
        ∧ ((cliStringToNoun first = noun ∧ cliStringToVerb second = verb)
          ∨ (cliStringToVerb first = verb ∧ cliStringToNoun second = noun)) := by
  constructor
  · intro h
    cases rest with
    | nil =>
        rw [cliParseTokens] at h
        split at h
        · cases h
        · exact absurd (Prod.mk.inj (Prod.mk.inj (Option.some.inj h)).2).1.symm hnoun
    | cons second others =>
        rw [cliParseTokens] at h
        split_ifs at h with hstart hsecond hstart hsecond
        · exact absurd ((Prod.mk.inj (Option.some.inj h)).1.symm.trans hsecond) hverb
        · obtain ⟨rfl, hrest⟩ := Prod.mk.inj (Option.some.inj h)
          obtain ⟨rfl, rfl⟩ := Prod.mk.inj hrest
          exact ⟨second, rfl, .inl ⟨rfl, rfl⟩⟩
        · exact absurd ((Prod.mk.inj (Prod.mk.inj (Option.some.inj h)).2).1.symm.trans hsecond) hnoun
        · obtain ⟨rfl, hrest⟩ := Prod.mk.inj (Option.some.inj h)
          obtain ⟨rfl, rfl⟩ := Prod.mk.inj hrest
          exact ⟨second, rfl, .inr ⟨rfl, rfl⟩⟩
  · rintro ⟨second, rfl, ⟨rfl, rfl⟩ | ⟨rfl, rfl⟩⟩
    · rw [cliParseTokens, if_pos hnoun, if_neg hverb]
    · have hfirst : cliStringToNoun first = .none := by
        by_contra h
        exact hverb (cliStringToVerb_of_noun h)
      rw [cliParseTokens, if_neg (not_not.mpr hfirst), if_pos hverb, if_neg hnoun]

/-- A line that has words is not blank. -/
theorem dropWhile_ne_nil_of_cliTokens {line : List Byte} (h : cliTokens line = first :: rest) :
    line.dropWhile isCSpace ≠ [] := by
  intro hblank
  rw [cliTokens, cliRawLine, hblank] at h
  cases h

/-- **A command is read from two words, whichever comes first, and the words behind them.** -/
theorem cliParseLine_eq_iff (hverb : verb ≠ .none) (hnoun : noun ≠ .none) (line : List Byte) :
    cliParseLine line = (⟨verb, noun, cliRawLine line, args, none, true⟩, .ok ())
      ↔ ∃ first second, cliTokens line = first :: second :: args
        ∧ ((cliStringToNoun first = noun ∧ cliStringToVerb second = verb)
          ∨ (cliStringToVerb first = verb ∧ cliStringToNoun second = noun)) := by
  have hinvalid (cmd : CliParsedCmd) (result : Except UesimError Unit) (h : cmd.valid = false) :
      (cmd, result) ≠ (⟨verb, noun, cliRawLine line, args, none, true⟩, .ok ()) := by
    intro heq
    rw [(Prod.mk.inj heq).1] at h
    cases h
  cases htokens : cliTokens line with
  | nil =>
      refine iff_of_false ?_ (by rintro ⟨first, second, h, -⟩; cases h)
      rw [cliParseLine, htokens]
      split
      · exact hinvalid _ _ rfl
      · exact hinvalid _ _ rfl
  | cons first rest =>
      rw [cliParseLine, if_neg (dropWhile_ne_nil_of_cliTokens htokens), htokens]
      dsimp only
      have hcommand : (∃ first' second, first :: rest = first' :: second :: args
          ∧ ((cliStringToNoun first' = noun ∧ cliStringToVerb second = verb)
            ∨ (cliStringToVerb first' = verb ∧ cliStringToNoun second = noun)))
          ↔ cliParseTokens first rest = some (verb, noun, args) := by
        rw [cliParseTokens_eq_some_iff hverb hnoun]
        constructor
        · rintro ⟨first', second, heq, hwords⟩
          obtain ⟨rfl, rfl⟩ := List.cons.inj heq
          exact ⟨second, rfl, hwords⟩
        · rintro ⟨second, rfl, hwords⟩
          exact ⟨first, second, rfl, hwords⟩
      rw [hcommand]
      cases hparsed : cliParseTokens first rest with
      | none => exact iff_of_false (hinvalid _ _ rfl) (by rintro ⟨⟩)
      | some found =>
          obtain ⟨verb', noun', args'⟩ := found
          constructor
          · intro h
            obtain ⟨rfl, rfl, -, rfl, -, -⟩ := CliParsedCmd.mk.inj (Prod.mk.inj h).1
            rfl
          · intro h
            obtain ⟨rfl, hrest⟩ := Prod.mk.inj (Option.some.inj h)
            obtain ⟨rfl, rfl⟩ := Prod.mk.inj hrest
            rfl

end Parse

/-! ### What is written -/

theorem beforeChain_eq_self {line : List Byte} (h : ¬[byte '&', byte '&'] <:+: line) : beforeChain line = line := by
  fun_induction beforeChain line with
  | case1 a b rest hchain =>
      obtain ⟨rfl, rfl⟩ := hchain
      exact absurd ⟨[], rest, rfl⟩ h
  | case2 a b rest hchain ih =>
      rw [ih fun hrest => h (hrest.trans (List.suffix_cons a (b :: rest)).isInfix)]
  | case3 line => rfl

/-- A word of a command. The first must not begin with what is skipped before it. -/
structure IsCliWord (word : List Byte) : Prop where
  isWord : IsWord isCliBlank word
  head : ∀ b ∈ word.head?, isCSpace b = false

/-- **Two words and arguments, with any blanks between them, are a command exactly when one of the two is the name of
its verb and the other that of its noun.** -/
theorem cli_parses_spaced_iff {verb : CliVerb} {noun : CliNoun} (hverb : verb ≠ .none) (hnoun : noun ≠ .none)
    {lead first : List Byte} (hlead : ∀ b ∈ lead, isCSpace b = true) (hfirst : IsCliWord first)
    {blanks second : List Byte} {pieces : List (List Byte × List Byte)}
    (hpieces : ∀ piece ∈ (blanks, second) :: pieces,
      piece.1 ≠ [] ∧ (∀ b ∈ piece.1, isCliBlank b = true) ∧ IsWord isCliBlank piece.2)
    (hchain : ¬[byte '&', byte '&'] <:+: spaced first ((blanks, second) :: pieces))
    (hlength : pieces.length + 2 ≤ cliMaxArgs) :
    cliParseLine (lead ++ spaced first ((blanks, second) :: pieces))
        = (⟨verb, noun, spaced first ((blanks, second) :: pieces), pieces.map Prod.snd, none, true⟩, .ok ())
      ↔ (eqIgnoreCase first (text noun.name) ∧ eqIgnoreCase second (text verb.name))
        ∨ (eqIgnoreCase first (text verb.name) ∧ eqIgnoreCase second (text noun.name)) := by
  have hraw : cliRawLine (lead ++ spaced first ((blanks, second) :: pieces))
      = spaced first ((blanks, second) :: pieces) := by
    have hhead : (spaced first ((blanks, second) :: pieces)).head? = first.head? :=
      List.head?_append_of_ne_nil _ hfirst.isWord.ne_nil
    rw [cliRawLine, List.dropWhile_append_of_pos hlead, dropWhile_eq_self (by rw [hhead]; exact hfirst.head),
      beforeChain_eq_self hchain]
  have htokens : cliTokens (lead ++ spaced first ((blanks, second) :: pieces))
      = first :: second :: pieces.map Prod.snd := by
    rw [cliTokens, hraw, wordsFrom_spaced hfirst.isWord hpieces, List.map_cons, List.take_of_length_le]
    rwa [List.length_cons, List.length_cons, List.length_map]
  have hiff := @cliParseLine_eq_iff (pieces.map Prod.snd) verb noun hverb hnoun
    (lead ++ spaced first ((blanks, second) :: pieces))
  rw [hraw, htokens] at hiff
  rw [hiff, ← cliStringToNoun_eq_iff hnoun, ← cliStringToNoun_eq_iff hnoun, ← cliStringToVerb_eq_iff hverb,
    ← cliStringToVerb_eq_iff hverb]
  constructor
  · rintro ⟨first', second', heq, hwords⟩
    obtain ⟨rfl, hrest⟩ := List.cons.inj heq
    obtain ⟨rfl, -⟩ := List.cons.inj hrest
    exact hwords
  · exact fun hwords => ⟨first, second, rfl, hwords⟩

theorem cli_parses_spaced_start :
    cliParseLine (text "  " ++ spaced (text "Start") [(text "\t", text "UE"), (text " ", text "5")])
      = (⟨.start, .ue, spaced (text "Start") [(text "\t", text "UE"), (text " ", text "5")], [text "5"], none, true⟩,
        .ok ()) :=
  (cli_parses_spaced_iff (by decide) (by decide) (by decide) ⟨⟨by decide, by decide⟩, by decide⟩ (by
    intro piece hpiece
    rw [List.mem_pair] at hpiece
    rcases hpiece with rfl | rfl
    · exact ⟨by decide, by decide, ⟨by decide, by decide⟩⟩
    · exact ⟨by decide, by decide, ⟨by decide, by decide⟩⟩) (by decide) (by decide)).mpr (.inr ⟨by decide, by decide⟩)

end Uesim
