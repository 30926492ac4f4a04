import Uesim.Cli.Parser
import Uesim.Library.Ring

/-!
# History, scripts and recordings

The history remembers the last commands in a ring. A script is read line by line and its commands are processed like
those that are typed. What is typed while a recording goes on is written to a file, which is then a script.
-/

namespace Uesim

open Bytes Text

def cliMaxHistory : Nat := 100

def cliMaxLineLen : Nat := 1024

/-! ### History -/

structure CliHistory where
  commands : Nat → Option (List Byte)
  count : Nat
  index : Nat

def cliHistoryEmpty : CliHistory := ⟨fun _ => none, 0, 0⟩

def cliHistoryAdd (history : CliHistory) (command : List Byte) : CliHistory :=
  if command = [] then history
  else if 0 < history.count
      ∧ history.commands ((history.index + cliMaxHistory - 1) % cliMaxHistory) = some command then history
  else
    { commands := Function.update history.commands history.index (some command)
      index := (history.index + 1) % cliMaxHistory
      count := if history.count < cliMaxHistory then history.count + 1 else history.count }

def cliHistoryGet (history : CliHistory) (offset : Int) : Option (List Byte) :=
  if offset < 0 ∨ (history.count : Int) ≤ offset then none
  else
    let idx := ((history.index : Int) - 1 - offset + cliMaxHistory) % cliMaxHistory
    history.commands idx.toNat

inductive CliHistoryOp where
  | add (command : List Byte)
  | clear

/-- `cli_history_clear` frees what there is and starts again. -/
def cliHistoryStep (history : CliHistory) : CliHistoryOp → CliHistory
  | .add command => cliHistoryAdd history command
  | .clear => cliHistoryEmpty

/-! ### Commands -/

abbrev CliFiles := List Byte → Option (List Byte)

/-- What is there besides the command line: what the other commands do, whose own state is in `σ`, what the kernel lets
be written, and the date of the build. -/
structure CliSurroundings (σ : Type) where
  exec : CliParsedCmd → σ × CliFiles → (σ × CliFiles) × Except UesimError Unit
  selectedUeId : σ → Int
  overflow : Int → Int
  creatable : List Byte → Bool
  date : {date : List Byte // date.length = 11 ∧ byte '\n' ∉ date}

structure CliState (σ : Type) where
  history : CliHistory
  /-- The file that is being recorded to. -/
  recorder : Option (List Byte)
  files : CliFiles
  running : Bool
  world : σ

abbrev CliResult (σ : Type) := CliState σ × Except UesimError Unit

section Commands

variable {σ : Type} (around : CliSurroundings σ)

/-- What a recording begins with. -/
def cliRecordHeader : List Byte :=
  text "# UESIM Script Recording\n" ++ text "# Generated: " ++ around.date.1 ++ text "\n"
    ++ text "# ==============================\n\n"

def cliRecordStart (state : CliState σ) (filename : List Byte) : CliResult σ :=
  if state.recorder.isSome then (state, .error .alreadyExists)
  else if around.creatable filename = false then (state, .error .file)
  else
    ({ state with
        recorder := some filename
        files := Function.update state.files filename (some (cliRecordHeader around)) }, .ok ())

/-- `fprintf` to the file that is being recorded to. -/
def cliRecordWrite (state : CliState σ) (written : List Byte) : CliState σ :=
  match state.recorder with
  | none => state
  | some filename =>
      { state with files := Function.update state.files filename ((state.files filename).map (· ++ written)) }

def cliRecordCommand (state : CliState σ) (command : List Byte) : CliState σ :=
  cliRecordWrite state (command ++ text "\n")

def cliRecordStop (state : CliState σ) : CliResult σ :=
  if state.recorder.isNone then (state, .error .notFound)
  else ({ cliRecordWrite state (text "\n# End of recording\n") with recorder := none }, .ok ())

/-- `execute` is what runs a script. -/
def cliExecScriptCmd (execute : CliState σ → List Byte → CliResult σ) (cmd : CliParsedCmd) (state : CliState σ) :
    CliResult σ :=
  match cmd.verb with
  | .run => if cmd.args = [] then (state, .error .invalidParam) else execute state (cliArg cmd)
  | .history => (state, .ok ())
  | .record =>
      if cmd.args = [] then (state, .error .invalidParam)
      else if eqIgnoreCase (cliArg cmd) (text "stop") then cliRecordStop state
      else cliRecordStart around state (cliArg cmd)
  | _ => (state, .ok ())

/-- What a command does that has been parsed. -/
def cliDispatch (execute : CliState σ → List Byte → CliResult σ) (cmd : CliParsedCmd) (state : CliState σ) :
    CliResult σ :=
  match cmd.noun with
  | .script => cliExecScriptCmd around execute cmd state
  | .none => (if cmd.verb = .exit then { state with running := false } else state, .ok ())
  | _ =>
      let done := around.exec cmd (state.world, state.files)
      ({ state with world := done.1.1, files := done.1.2 }, done.2)

def cliProcessCommand (execute : CliState σ → List Byte → CliResult σ) (state : CliState σ) (input : List Byte) :
    CliResult σ :=
  if input = [] then (state, .ok ())
  else
    let (cmd, result) := cliParseLine input
    if cmd.valid = false then (state, result)
    else
      match cliValidateArgs around.overflow (around.selectedUeId state.world) cmd with
      | some err => (state, .error err.error)
      | none => cliDispatch around execute cmd state

/-! ### Scripts -/

/-- Neither the end of a string nor that of a line. -/
def isScriptText (b : Byte) : Bool := !(b = 0 || b = byte '\n' || b = byte '\r')

/-- The command in a line of a script, if it is not blank and no comment. -/
def cliScriptCommand (line : List Byte) : Option (List Byte) :=
  let start := (line.takeWhile isScriptText).dropWhile isBlank
  if start = [] ∨ start.head? = some (byte '#') then none else some start

/-- The commands that are left, and whether one has failed. An invalid command ends the script. -/
def cliScriptLoop (process : CliState σ → List Byte → CliResult σ) :
    CliState σ → Bool → List (List Byte) → CliState σ × Bool
  | state, failed, [] => (state, failed)
  | state, failed, command :: commands =>
      match process { state with history := cliHistoryAdd state.history command } command with
      | (state, .ok ()) => cliScriptLoop process state failed commands
      | (state, .error .invalidParam) => (state, true)
      | (state, .error _) => cliScriptLoop process state true commands

def cliScriptCommands (content : List Byte) : List (List Byte) :=
  (fgetsLines cliMaxLineLen [] content).filterMap cliScriptCommand

/-- A script may run others, as long as there are file descriptors. It is read as it is when it is opened. -/
def cliScriptExecute : Nat → CliState σ → List Byte → CliResult σ
  | 0, state, _ => (state, .error .file)
  | descriptors + 1, state, filename =>
      match state.files filename with
      | none => (state, .error .file)
      | some content =>
          let done := cliScriptLoop (cliProcessCommand around (cliScriptExecute descriptors)) state false
            (cliScriptCommands content)
          (done.1, if done.2 then .error .protocol else .ok ())

/-! ### Typing -/

def cliTypedLine (line : List Byte) : List Byte := line.takeWhile fun b => !(b = 0 || b = byte '\n')

/-- One round of the loop of `cli_start_interactive_mode`. -/
def cliInteractiveStep (process : CliState σ → List Byte → CliResult σ) (state : CliState σ) (line : List Byte) :
    CliState σ :=
  let input := cliTypedLine line
  if state.running = false ∨ input = [] then state
  else
    let state := (process state input).1
    cliRecordCommand { state with history := cliHistoryAdd state.history input } input

def cliStartInteractiveMode (process : CliState σ → List Byte → CliResult σ) (state : CliState σ)
    (stdin : List Byte) : CliState σ :=
  if state.running then state
  else (fgetsLines cliMaxLineLen [] stdin).foldl (cliInteractiveStep process) { state with running := true }

end Commands

/-! ### What is remembered -/

/-- What is remembered, the newest command first: one after the other, but nothing twice in a row. -/
def remember (kept : List (List Byte)) : CliHistoryOp → List (List Byte)
  | .add command => if command = [] ∨ kept.head? = some command then kept else command :: kept
  | .clear => []

/-- The ring holds the last commands of what is remembered. -/
structure CliHistory.Keeps (history : CliHistory) (kept : List (List Byte)) : Prop where
  index : history.index = kept.length % cliMaxHistory
  count : history.count = min kept.length cliMaxHistory
  holds : Ring.Holds cliMaxHistory history.commands (kept.reverse.map some) (kept.length - cliMaxHistory) kept.length

theorem keeps_empty : cliHistoryEmpty.Keeps [] := ⟨rfl, rfl, Ring.holds_self _ _ _ _⟩

section Keeps

variable {history : CliHistory} {kept : List (List Byte)}

theorem getElem?_stream {offset : Nat} (h : offset < kept.length) :
    (kept.reverse.map some)[kept.length - 1 - offset]? = (kept[offset]?).map some := by
  rw [List.getElem?_map, List.getElem?_reverse (by omega)]
  congr 2
  omega

/-- The cell before the next one is that of the newest command. -/
theorem CliHistory.Keeps.cell (h : history.Keeps kept) {offset : Nat} (hoffset : offset < history.count) :
    history.commands ((history.index + cliMaxHistory - 1 - offset) % cliMaxHistory) = kept[offset]? := by
  have hcount := h.count
  have hlt : offset < kept.length := by omega
  have hheld := h.holds (kept.length - 1 - offset) (by omega) (by omega)
  have hcell : (history.index + cliMaxHistory - 1 - offset) % cliMaxHistory
      = (kept.length - 1 - offset) % cliMaxHistory := by
    rw [h.index]
    unfold cliMaxHistory at *
    omega
  rw [getElem?_stream hlt, List.getElem?_eq_getElem hlt] at hheld
  rw [hcell, ← Option.some.inj hheld, List.getElem?_eq_getElem hlt]

theorem CliHistory.Keeps.newest (h : history.Keeps kept) {command : List Byte} :
    (0 < history.count ∧ history.commands ((history.index + cliMaxHistory - 1) % cliMaxHistory) = some command)
      ↔ kept.head? = some command := by
  have hcount := h.count
  cases hkept : kept with
  | nil =>
      rw [hkept, List.length_nil, Nat.zero_min] at hcount
      rw [hcount]
      exact iff_of_false (fun hpos => absurd hpos.1 (Nat.lt_irrefl 0)) (by rintro ⟨⟩)
  | cons first rest =>
      have hpos : 0 < history.count := by
        rw [hcount, hkept, List.length_cons]
        exact Nat.lt_min.mpr ⟨Nat.succ_pos _, by decide⟩
      have hcell := h.cell hpos
      rw [hkept, Nat.sub_zero] at hcell
      rw [and_iff_right hpos, hcell]
      rfl

theorem CliHistory.Keeps.push (h : history.Keeps kept) (command : List Byte) :
    CliHistory.Keeps
      { commands := Function.update history.commands history.index (some command)
        index := (history.index + 1) % cliMaxHistory
        count := if history.count < cliMaxHistory then history.count + 1 else history.count }
      (command :: kept) := by
  have hcount := h.count
  refine ⟨?_, ?_, ?_⟩
  · dsimp only
    rw [h.index, List.length_cons, Nat.mod_add_mod]
  · dsimp only
    rw [List.length_cons]
    split
    · omega
    · omega
  · have hstream : (command :: kept).reverse.map some = kept.reverse.map some ++ [some command] := by
      rw [List.reverse_cons, List.map_append]
      rfl
    have hlater : kept.length - cliMaxHistory ≤ kept.length + 1 - cliMaxHistory := by omega
    have hheld := (h.holds.append [some command]).mono hlater (Nat.le_refl _)
    rw [hstream, List.length_cons, h.index]
    refine hheld.push ?_ ?_
    · have hsize : 0 < cliMaxHistory := by decide
      omega
    · rw [List.getElem?_append_right (by rw [List.length_map, List.length_reverse]), List.length_map,
        List.length_reverse, Nat.sub_self]
      rfl

theorem CliHistory.Keeps.step (h : history.Keeps kept) (op : CliHistoryOp) :
    (cliHistoryStep history op).Keeps (remember kept op) := by
  cases op with
  | clear => exact keeps_empty
  | add command =>
      rw [cliHistoryStep, cliHistoryAdd, remember]
      by_cases hempty : command = []
      · rw [if_pos hempty, if_pos (.inl hempty)]
        exact h
      · rw [if_neg hempty]
        by_cases hsame : kept.head? = some command
        · rw [if_pos (h.newest.mpr hsame), if_pos (.inr hsame)]
          exact h
        · rw [if_neg (h.newest.not.mpr hsame), if_neg (not_or.mpr ⟨hempty, hsame⟩)]
          exact h.push command

theorem CliHistory.Keeps.get (h : history.Keeps kept) (offset : Nat) :
    cliHistoryGet history offset = (kept.take cliMaxHistory)[offset]? := by
  have hcount := h.count
  rw [cliHistoryGet]
  split
  · rename_i hout
    rw [List.getElem?_eq_none]
    rw [List.length_take]
    omega
  · rename_i hin
    have hlt : offset < history.count := by omega
    have hindex : ((history.index : Int) - 1 - offset + cliMaxHistory) % cliMaxHistory
        = ((history.index + cliMaxHistory - 1 - offset) % cliMaxHistory : Nat) := by
      unfold cliMaxHistory at *
      omega
    rw [List.getElem?_take, if_pos (by omega), hindex]
    exact h.cell hlt

end Keeps

theorem keeps_run (ops : List CliHistoryOp) {history : CliHistory} {kept : List (List Byte)}
    (h : history.Keeps kept) : (ops.foldl cliHistoryStep history).Keeps (ops.foldl remember kept) := by
  induction ops generalizing history kept with
  | nil => exact h
  | cons op ops ih => exact ih (h.step op)

/-- **The history gives the last hundred commands that are remembered, the newest first**, and nothing else. -/
theorem cliHistory_gives_the_last (ops : List CliHistoryOp) (offset : Int) :
    cliHistoryGet (ops.foldl cliHistoryStep cliHistoryEmpty) offset
      = if offset < 0 then none else ((ops.foldl remember []).take cliMaxHistory)[offset.toNat]? := by
  by_cases hneg : offset < 0
  · rw [if_pos hneg, cliHistoryGet, if_pos (.inl hneg)]
  · obtain ⟨place, rfl⟩ := Int.eq_ofNat_of_zero_le (Int.not_lt.mp hneg)
    rw [if_neg hneg, Int.toNat_natCast]
    exact (keeps_run ops keeps_empty).get place

/-! ### Lines that are written and read back -/

theorem takeWhile_append_end {p : Byte → Bool} {b : Byte} (hb : p b = false) (line : List Byte) :
    (line ++ [b]).takeWhile p = line.takeWhile p := by
  induction line with
  | nil =>
      rw [List.nil_append, List.takeWhile_cons, if_neg (Bool.eq_false_iff.mp hb)]
      rfl
  | cons c line ih => rw [List.cons_append, List.takeWhile_cons, List.takeWhile_cons, ih]

theorem cliScriptCommand_newline (line : List Byte) :
    cliScriptCommand (line ++ [byte '\n']) = cliScriptCommand line := by
  rw [cliScriptCommand, cliScriptCommand, takeWhile_append_end (by decide)]

/-- A line that fits in the buffer without its end is read in one piece, or in two of which the second is blank. -/
theorem cliScriptCommands_line {line : List Byte} (hline : byte '\n' ∉ line)
    (hlength : line.length < cliMaxLineLen) (rest : List Byte) :
    cliScriptCommands (line ++ byte '\n' :: rest) = (cliScriptCommand line).toList ++ cliScriptCommands rest := by
  rw [cliScriptCommands]
  rcases Nat.lt_or_eq_of_le (Nat.succ_le_of_lt hlength) with hshort | hfull
  · rw [fgetsLines_append hline hshort, List.nil_append, List.filterMap_cons, cliScriptCommand_newline]
    cases cliScriptCommand line with
    | none => rfl
    | some command => rfl
  · have hne : line ≠ [] := by
      rintro rfl
      cases hfull
    have hblank := @fgetsLines_append cliMaxLineLen [] [] rest List.not_mem_nil (by decide)
    rw [List.nil_append] at hblank
    have hsplit := @fgetsLines_full cliMaxLineLen [] line (byte '\n' :: rest) hline hne hfull
    rw [hsplit, hblank, List.nil_append, List.filterMap_cons, List.filterMap_cons]
    have hnothing : cliScriptCommand ([] ++ [] ++ [byte '\n']) = none := by decide
    rw [hnothing]
    cases cliScriptCommand line with
    | none => rfl
    | some command => rfl

/-- **What has been written line by line is what a script of it runs.** -/
theorem cliScriptCommands_lines {lines : List (List Byte)}
    (h : ∀ line ∈ lines, byte '\n' ∉ line ∧ line.length < cliMaxLineLen) (rest : List Byte) :
    cliScriptCommands (lines.flatMap (· ++ [byte '\n']) ++ rest)
      = lines.filterMap cliScriptCommand ++ cliScriptCommands rest := by
  induction lines with
  | nil => rfl
  | cons line lines ih =>
      obtain ⟨hline, hlength⟩ := h line List.mem_cons_self
      have hrec := ih fun other hmem => h other (List.mem_cons_of_mem line hmem)
      rw [List.flatMap_cons, List.append_assoc, List.append_assoc, List.singleton_append,
        cliScriptCommands_line hline hlength, hrec, List.filterMap_cons]
      cases cliScriptCommand line with
      | none => rfl
      | some command => rfl

theorem cliTypedLine_plain {stdin line : List Byte} (hmem : line ∈ fgetsLines cliMaxLineLen [] stdin) :
    byte '\n' ∉ cliTypedLine line ∧ (cliTypedLine line).length < cliMaxLineLen := by
  constructor
  · intro h
    have hplain := List.mem_takeWhile_imp h
    revert hplain
    decide
  · exact (List.takeWhile_prefix _).length_le.trans_lt (length_lt_of_mem_fgetsLines (by decide) hmem)

/-! ### Recording what is typed -/

/-- The other commands leave the file alone. -/
def CliSurroundings.Spares {σ : Type} (around : CliSurroundings σ) (filename : List Byte) : Prop :=
  ∀ cmd known, (around.exec cmd known).1.2 filename = known.2 filename

def isCliExit (input : List Byte) : Bool :=
  let cmd := (cliParseLine input).1
  cmd.valid && cmd.noun == .none && cmd.verb == .exit

/-- What is typed, up to the command that ends it. -/
def cliTyped : List (List Byte) → List (List Byte)
  | [] => []
  | line :: lines =>
      if cliTypedLine line = [] then cliTyped lines
      else if isCliExit (cliTypedLine line) then [cliTypedLine line]
      else cliTypedLine line :: cliTyped lines

section Recording

variable {σ : Type} {around : CliSurroundings σ} {execute : CliState σ → List Byte → CliResult σ}
  {filename : List Byte}

/-- A recording goes on, and the file has what has been written. -/
structure CliState.Records (state : CliState σ) (filename content : List Byte) : Prop where
  recorder : state.recorder = some filename
  file : state.files filename = some content

theorem CliState.Records.write {state : CliState σ} {content : List Byte} (h : state.Records filename content)
    (written : List Byte) : (cliRecordWrite state written).Records filename (content ++ written) := by
  have hwrite : cliRecordWrite state written = { state with
      files := Function.update state.files filename ((state.files filename).map (· ++ written)) } := by
    rw [cliRecordWrite, h.recorder]
  rw [hwrite]
  refine ⟨h.recorder, ?_⟩
  dsimp only
  rw [Function.update_self, h.file]
  rfl

/-- **A command that is not about scripts leaves a recording as it is**, and goes on unless it is an exit. -/
theorem CliState.Records.process {state : CliState σ} {content : List Byte} (h : state.Records filename content)
    (hspares : around.Spares filename) {input : List Byte} (hnoun : (cliParseLine input).1.noun ≠ .script) :
    (cliProcessCommand around execute state input).1.Records filename content := by
  rw [cliProcessCommand]
  split
  · exact h
  · split
    rename_i cmd result hparsed
    rw [hparsed] at hnoun
    split
    · exact h
    · split
      · exact h
      · rw [cliDispatch]
        cases hcmd : cmd.noun with
        | script => exact absurd hcmd hnoun
        | none =>
            dsimp only
            split
            · exact ⟨h.recorder, h.file⟩
            · exact h
        | _ => exact ⟨h.recorder, (hspares cmd _).trans h.file⟩

theorem running_process {state : CliState σ} {input : List Byte} (hrunning : state.running = true)
    (hne : input ≠ []) (hnoun : (cliParseLine input).1.noun ≠ .script) :
    (cliProcessCommand around execute state input).1.running = !isCliExit input := by
  rw [cliProcessCommand, if_neg hne, isCliExit]
  split
  rename_i cmd result hparsed
  rw [hparsed] at hnoun ⊢
  dsimp only at hnoun ⊢
  cases hvalid : cmd.valid with
  | false => exact hrunning
  | true =>
      rw [if_neg Bool.true_eq_false.mp, Bool.true_and]
      cases hcmd : cmd.noun with
      | script => exact absurd hcmd hnoun
      | none =>
          have hpasses : cliValidateArgs around.overflow (around.selectedUeId state.world) cmd = none := by
            rw [cliValidateArgs, hcmd]
          rw [hpasses, cliDispatch, hcmd]
          by_cases hverb : cmd.verb = .exit
          · rw [if_pos hverb, hverb]
            rfl
          · rw [if_neg hverb, hrunning, beq_self_eq_true, Bool.true_and, beq_false_of_ne hverb]
            rfl
      | _ =>
          split
          · exact hrunning
          · rw [cliDispatch, hcmd]
            exact hrunning

theorem foldl_of_stopped {process : CliState σ → List Byte → CliResult σ} {state : CliState σ}
    (hstopped : state.running = false) (lines : List (List Byte)) :
    lines.foldl (cliInteractiveStep process) state = state := by
  induction lines with
  | nil => rfl
  | cons line lines ih =>
      have hstep : cliInteractiveStep process state line = state := if_pos (.inl hstopped)
      rw [List.foldl_cons, hstep]
      exact ih

theorem running_cliRecordWrite (state : CliState σ) (written : List Byte) :
    (cliRecordWrite state written).running = state.running := by
  rw [cliRecordWrite]
  split
  · rfl
  · rfl

/-- **What is typed while a recording goes on is in the file.** -/
theorem CliState.Records.typed {lines : List (List Byte)}
    (hspares : around.Spares filename) (hnoun : ∀ line ∈ lines, (cliParseLine (cliTypedLine line)).1.noun ≠ .script)
    {state : CliState σ} {content : List Byte} (h : state.Records filename content)
    (hrunning : state.running = true) :
    (lines.foldl (cliInteractiveStep (cliProcessCommand around execute)) state).Records filename
      (content ++ (cliTyped lines).flatMap (· ++ [byte '\n'])) := by
  induction lines generalizing state content with
  | nil =>
      rw [cliTyped, List.flatMap_nil, List.append_nil]
      exact h
  | cons line lines ih =>
      have hlater (other : List Byte) (hmem : other ∈ lines) := hnoun other (List.mem_cons_of_mem line hmem)
      rw [List.foldl_cons, cliTyped]
      by_cases hempty : cliTypedLine line = []
      · have hstep : cliInteractiveStep (cliProcessCommand around execute) state line = state :=
          if_pos (.inr hempty)
        rw [hstep, if_pos hempty]
        exact ih hlater h hrunning
      · have hcommand := hnoun line List.mem_cons_self
        obtain ⟨next, hnext⟩ : ∃ next, next = (cliProcessCommand around execute state (cliTypedLine line)).1 :=
          ⟨_, rfl⟩
        have hprocessed : next.Records filename content := hnext ▸ h.process hspares hcommand
        have hgoes : next.running = !isCliExit (cliTypedLine line) :=
          hnext ▸ running_process hrunning hempty hcommand
        have hstep : cliInteractiveStep (cliProcessCommand around execute) state line
            = cliRecordCommand { next with history := cliHistoryAdd next.history (cliTypedLine line) }
              (cliTypedLine line) := by
          rw [cliInteractiveStep, if_neg (by rw [hrunning]; exact not_or.mpr ⟨Bool.true_eq_false.mp, hempty⟩),
            hnext]
        have hwritten : (cliInteractiveStep (cliProcessCommand around execute) state line).Records filename
            (content ++ (cliTypedLine line ++ [byte '\n'])) := by
          rw [hstep]
          exact @CliState.Records.write _ _ { next with history := cliHistoryAdd next.history (cliTypedLine line) }
            _ ⟨hprocessed.recorder, hprocessed.file⟩ _
        have hrunning' : (cliInteractiveStep (cliProcessCommand around execute) state line).running
            = !isCliExit (cliTypedLine line) := by
          rw [hstep, cliRecordCommand, running_cliRecordWrite]
          exact hgoes
        rw [if_neg hempty]
        cases hexit : isCliExit (cliTypedLine line) with
        | true =>
            rw [hexit] at hrunning'
            rw [foldl_of_stopped hrunning', if_pos rfl, List.flatMap_singleton]
            exact hwritten
        | false =>
            rw [hexit] at hrunning'
            rw [if_neg Bool.false_ne_true, List.flatMap_cons, ← List.append_assoc]
            exact ih hlater hwritten hrunning'

/-- The command starts a recording to the file. -/
structure CliSurroundings.Starts {σ : Type} (around : CliSurroundings σ) (input filename : List Byte) : Prop where
  parsed : ∃ raw more, cliParseLine input = (⟨.record, .script, raw, filename :: more, none, true⟩, .ok ())
  name : eqIgnoreCase filename (text "stop") = false
  creatable : around.creatable filename = true

theorem CliSurroundings.Starts.ne_nil {input : List Byte} (h : around.Starts input filename) : input ≠ [] := by
  rintro rfl
  obtain ⟨raw, more, hparsed⟩ := h.parsed
  cases hparsed

theorem CliSurroundings.Starts.process_eq {input : List Byte} (h : around.Starts input filename)
    {state : CliState σ} (hidle : state.recorder = none) :
    cliProcessCommand around execute state input
      = ({ state with
          recorder := some filename
          files := Function.update state.files filename (some (cliRecordHeader around)) }, .ok ()) := by
  obtain ⟨raw, more, hparsed⟩ := h.parsed
  rw [cliProcessCommand, if_neg h.ne_nil, hparsed]
  dsimp only
  rw [if_neg Bool.true_eq_false.mp, cliValidateArgs, cliDispatch, cliExecScriptCmd]
  dsimp only
  rw [if_neg (List.cons_ne_nil filename more), cliArg, List.headD_cons, if_neg (Bool.eq_false_iff.mp h.name),
    cliRecordStart, hidle, h.creatable]
  rfl

theorem CliSurroundings.Starts.records {input : List Byte} (h : around.Starts input filename)
    {state : CliState σ} (hidle : state.recorder = none) :
    (cliProcessCommand around execute state input).1.Records filename (cliRecordHeader around) := by
  rw [h.process_eq hidle]
  exact ⟨rfl, Function.update_self _ _ _⟩

/-- The session that starts with a recording, and its file. -/
theorem records_session {start : List Byte} {lines : List (List Byte)} {state : CliState σ}
    (hidle : state.recorder = none) (hrunning : state.running = true) (hspares : around.Spares filename)
    (hstart : around.Starts (cliTypedLine start) filename)
    (hnoun : ∀ line ∈ lines, (cliParseLine (cliTypedLine line)).1.noun ≠ .script) :
    ((start :: lines).foldl (cliInteractiveStep (cliProcessCommand around execute)) state).Records filename
      (cliRecordHeader around ++ (cliTypedLine start :: cliTyped lines).flatMap (· ++ [byte '\n'])) := by
  obtain ⟨next, hnext⟩ : ∃ next, next = (cliProcessCommand around execute state (cliTypedLine start)).1 := ⟨_, rfl⟩
  have hprocessed : next.Records filename (cliRecordHeader around) := hnext ▸ hstart.records hidle
  have hgoes : next.running = true := by
    rw [hnext, hstart.process_eq hidle]
    exact hrunning
  have hstep : cliInteractiveStep (cliProcessCommand around execute) state start
      = cliRecordCommand { next with history := cliHistoryAdd next.history (cliTypedLine start) }
        (cliTypedLine start) := by
    rw [cliInteractiveStep, if_neg (by rw [hrunning]; exact not_or.mpr ⟨Bool.true_eq_false.mp, hstart.ne_nil⟩),
      hnext]
  rw [List.foldl_cons, hstep, List.flatMap_cons, ← List.append_assoc]
  refine CliState.Records.typed hspares hnoun ?_ ?_
  · exact @CliState.Records.write _ _ { next with history := cliHistoryAdd next.history (cliTypedLine start) } _
      ⟨hprocessed.recorder, hprocessed.file⟩ _
  · rw [cliRecordCommand, running_cliRecordWrite]
    exact hgoes

theorem cliScriptCommand_comment (rest : List Byte) : cliScriptCommand (byte '#' :: rest) = none := by
  have htake : (byte '#' :: rest).takeWhile isScriptText = byte '#' :: rest.takeWhile isScriptText :=
    List.takeWhile_cons_of_pos (by decide)
  have hdrop : (byte '#' :: rest.takeWhile isScriptText).dropWhile isBlank = byte '#' :: rest.takeWhile isScriptText :=
    List.dropWhile_cons_of_neg (by decide)
  rw [cliScriptCommand, htake, hdrop]
  exact if_pos (.inr rfl)

variable (around) in
/-- The header runs nothing. -/
theorem cliScriptCommands_header (rest : List Byte) :
    cliScriptCommands (cliRecordHeader around ++ rest) = cliScriptCommands rest := by
  have hheader : cliRecordHeader around
      = [text "# UESIM Script Recording", text "# Generated: " ++ around.date.1,
          text "# ==============================", []].flatMap (· ++ [byte '\n']) := by
    have hlast : text "# ==============================\n\n"
        = text "# ==============================" ++ [byte '\n'] ++ [byte '\n'] := by decide
    have hfirst : text "# UESIM Script Recording\n" = text "# UESIM Script Recording" ++ [byte '\n'] := by decide
    rw [cliRecordHeader, hfirst, hlast]
    simp only [List.flatMap_cons, List.flatMap_nil, List.append_nil, List.append_assoc, List.nil_append]
    rfl
  have hdate : byte '\n' ∉ text "# Generated: " ++ around.date.1
      ∧ (text "# Generated: " ++ around.date.1).length < cliMaxLineLen := by
    constructor
    · rw [List.mem_append, not_or]
      exact ⟨by decide, around.date.2.2⟩
    · rw [List.length_append, around.date.2.1]
      decide
  have hcomments : [text "# UESIM Script Recording", text "# Generated: " ++ around.date.1,
      text "# ==============================", []].filterMap cliScriptCommand = [] := by
    have hgenerated : cliScriptCommand (text "# Generated: " ++ around.date.1) = none :=
      cliScriptCommand_comment (text " Generated: " ++ around.date.1)
    rw [List.filterMap_cons_none (by decide), List.filterMap_cons_none hgenerated]
    decide
  rw [hheader, cliScriptCommands_lines, hcomments, List.nil_append]
  · intro line hmem
    rcases List.mem_cons.mp hmem with rfl | hmem
    · decide
    rcases List.mem_cons.mp hmem with rfl | hmem
    · exact hdate
    rcases List.mem_cons.mp hmem with rfl | hmem
    · decide
    rw [List.mem_singleton.mp hmem]
    decide

/-- What a recording comes to that has been stopped. -/
theorem CliState.Records.stop {state : CliState σ} {content : List Byte} (h : state.Records filename content) :
    (cliRecordStop state).1.recorder = none
      ∧ (cliRecordStop state).1.files filename = some (content ++ text "\n# End of recording\n") := by
  have hstop : cliRecordStop state
      = ({ cliRecordWrite state (text "\n# End of recording\n") with recorder := none }, .ok ()) := by
    rw [cliRecordStop, h.recorder]
    rfl
  rw [hstop]
  exact ⟨rfl, (h.write _).file⟩

end Recording

theorem exists_of_mem_cliTyped {lines : List (List Byte)} {typed : List Byte} (h : typed ∈ cliTyped lines) :
    ∃ line ∈ lines, typed = cliTypedLine line := by
  induction lines with
  | nil => cases h
  | cons line lines ih =>
      have hlater (hmem : typed ∈ cliTyped lines) : ∃ other ∈ line :: lines, typed = cliTypedLine other := by
        obtain ⟨other, hother, htyped⟩ := ih hmem
        exact ⟨other, List.mem_cons_of_mem line hother, htyped⟩
      rw [cliTyped] at h
      split_ifs at h
      · exact hlater h
      · exact ⟨line, List.mem_cons_self, List.mem_singleton.mp h⟩
      · rcases List.mem_cons.mp h with hfirst | hmem
        · exact ⟨line, List.mem_cons_self, hfirst⟩
        · exact hlater hmem

/-- The commands of a recording are those that were typed. -/
theorem cliScriptCommands_recording {σ : Type} (around : CliSurroundings σ) {stdin start : List Byte}
    {lines : List (List Byte)} (hstdin : fgetsLines cliMaxLineLen [] stdin = start :: lines) :
    cliScriptCommands (cliRecordHeader around ++ (cliTypedLine start :: cliTyped lines).flatMap (· ++ [byte '\n'])
        ++ text "\n# End of recording\n")
      = (cliTypedLine start :: cliTyped lines).filterMap cliScriptCommand := by
  have hend : cliScriptCommands (text "\n# End of recording\n") = [] := by decide +kernel
  rw [List.append_assoc, cliScriptCommands_header, cliScriptCommands_lines, hend, List.append_nil]
  intro typed htyped
  have hline : ∃ line ∈ start :: lines, typed = cliTypedLine line := by
    rcases List.mem_cons.mp htyped with hfirst | hmem
    · exact ⟨start, List.mem_cons_self, hfirst⟩
    · obtain ⟨line, hline, htyped⟩ := exists_of_mem_cliTyped hmem
      exact ⟨line, List.mem_cons_of_mem start hline, htyped⟩
  obtain ⟨line, hline, rfl⟩ := hline
  rw [← hstdin] at hline
  exact cliTypedLine_plain hline

/-- **A recording runs what was typed**, from the command that started it to the last one. -/
theorem cli_recording_runs_what_was_typed {σ : Type} {around : CliSurroundings σ}
    (execute : CliState σ → List Byte → CliResult σ) {filename : List Byte} (hspares : around.Spares filename)
    {state : CliState σ} (hidle : state.recorder = none) (hstopped : state.running = false)
    {stdin start : List Byte} {lines : List (List Byte)} (hstdin : fgetsLines cliMaxLineLen [] stdin = start :: lines)
    (hstart : around.Starts (cliTypedLine start) filename)
    (hnoun : ∀ line ∈ lines, (cliParseLine (cliTypedLine line)).1.noun ≠ .script) :
    ∃ session recording,
      session = (cliRecordStop (cliStartInteractiveMode (cliProcessCommand around execute) state stdin)).1
        ∧ session.recorder = none ∧ session.files filename = some recording
        ∧ cliScriptCommands recording
          = (cliTypedLine start :: cliTyped lines).filterMap cliScriptCommand := by
  have hsession : (cliStartInteractiveMode (cliProcessCommand around execute) state stdin).Records filename
      (cliRecordHeader around ++ (cliTypedLine start :: cliTyped lines).flatMap (· ++ [byte '\n'])) := by
    rw [cliStartInteractiveMode, if_neg (Bool.eq_false_iff.mp hstopped), hstdin]
    exact @records_session _ _ execute _ _ _ { state with running := true } hidle rfl hspares hstart hnoun
  exact ⟨_, _, rfl, hsession.stop.1, hsession.stop.2, cliScriptCommands_recording around hstdin⟩

/-- Surroundings in which the other commands do nothing. -/
def cliIdleSurroundings : CliSurroundings Unit where
  exec := fun _ known => (known, .ok ())
  selectedUeId := fun _ => -1
  overflow := fun value => value
  creatable := fun _ => true
  date := ⟨text "Jan  1 2025", by decide⟩

def cliIdleState : CliState Unit := ⟨cliHistoryEmpty, none, fun _ => none, false, ()⟩

theorem starts_script_record : cliIdleSurroundings.Starts (text "script record f") (text "f") :=
  ⟨⟨text "script record f", [], by rfl⟩, by decide, rfl⟩

theorem cli_recording_runs_ue_list :
    ∃ session recording,
      session = (cliRecordStop (cliStartInteractiveMode
          (cliProcessCommand cliIdleSurroundings (cliScriptExecute cliIdleSurroundings 1)) cliIdleState
          (text "script record f\n\n ue list\n"))).1
        ∧ session.recorder = none ∧ session.files (text "f") = some recording
        ∧ cliScriptCommands recording = [text "script record f", text "ue list"] := by
  have hstdin : fgetsLines cliMaxLineLen [] (text "script record f\n\n ue list\n")
      = [text "script record f\n", text "\n", text " ue list\n"] := by decide +kernel
  obtain ⟨session, recording, hsession, hidle, hfile, hcommands⟩ :=
    cli_recording_runs_what_was_typed (cliScriptExecute cliIdleSurroundings 1) (fun _ _ => rfl)
      (show cliIdleState.recorder = none from rfl) rfl hstdin starts_script_record (by decide +kernel)
  exact ⟨session, recording, hsession, hidle, hfile, hcommands.trans (by decide +kernel)⟩

/-! ### Running a recording -/

section Running

variable {σ : Type} {around : CliSurroundings σ} {filename : List Byte}

/-- The rest of a script leaves a recording as it is. -/
theorem CliState.Records.loop {execute : CliState σ → List Byte → CliResult σ} {content : List Byte}
    (hspares : around.Spares filename) {commands : List (List Byte)}
    (hnoun : ∀ command ∈ commands, (cliParseLine command).1.noun ≠ .script) {state : CliState σ}
    (h : state.Records filename content) (failed : Bool) :
    (cliScriptLoop (cliProcessCommand around execute) state failed commands).1.Records filename content := by
  induction commands generalizing state failed with
  | nil => exact h
  | cons command commands ih =>
      have hlater (other : List Byte) (hmem : other ∈ commands) := hnoun other (List.mem_cons_of_mem command hmem)
      have hprocessed : (cliProcessCommand around execute
          { state with history := cliHistoryAdd state.history command } command).1.Records filename content :=
        @CliState.Records.process _ _ execute _ { state with history := cliHistoryAdd state.history command } _
          ⟨h.recorder, h.file⟩ hspares _ (hnoun command List.mem_cons_self)
      rw [cliScriptLoop]
      split
      · rename_i hdone
        rw [hdone] at hprocessed
        exact ih hlater hprocessed failed
      · rename_i hdone
        rw [hdone] at hprocessed
        exact hprocessed
      · rename_i hdone
        rw [hdone] at hprocessed
        exact ih hlater hprocessed true

/-- A script that begins by starting a recording to its own file is lost. -/
theorem records_cliScriptExecute (hspares : around.Spares filename) {content start : List Byte}
    {commands : List (List Byte)} (hcontent : cliScriptCommands content = start :: commands)
    (hstart : around.Starts start filename)
    (hnoun : ∀ command ∈ commands, (cliParseLine command).1.noun ≠ .script) {state : CliState σ}
    (hidle : state.recorder = none) (hfile : state.files filename = some content) (descriptors : Nat) :
    (cliScriptExecute around (descriptors + 1) state filename).1.Records filename (cliRecordHeader around) := by
  have hprocessed := @CliSurroundings.Starts.process_eq _ _ (cliScriptExecute around descriptors) _ _ hstart
    { state with history := cliHistoryAdd state.history start } hidle
  rw [cliScriptExecute, hfile]
  dsimp only
  rw [hcontent, cliScriptLoop, hprocessed]
  exact CliState.Records.loop hspares hnoun ⟨rfl, Function.update_self _ _ _⟩ false

theorem dropWhile_blanks (line : List Byte) : (line.dropWhile isBlank).dropWhile isCSpace = line.dropWhile isCSpace := by
  induction line with
  | nil => rfl
  | cons b line ih =>
      cases hblank : isBlank b with
      | true =>
          have hspace : isCSpace b = true := by
            rw [isCSpace, isSpace, hblank]
            rfl
          rw [List.dropWhile_cons_of_pos hblank, List.dropWhile_cons_of_pos hspace]
          exact ih
      | false => rw [List.dropWhile_cons_of_neg (Bool.eq_false_iff.mp hblank)]

theorem cliParseLine_dropBlanks (line : List Byte) : cliParseLine (line.dropWhile isBlank) = cliParseLine line := by
  rw [cliParseLine, cliParseLine, cliTokens, cliTokens, cliRawLine, cliRawLine, dropWhile_blanks]

theorem CliSurroundings.Starts.dropBlanks {input : List Byte} (h : around.Starts input filename) :
    around.Starts (input.dropWhile isBlank) filename :=
  ⟨cliParseLine_dropBlanks input ▸ h.parsed, h.name, h.creatable⟩

theorem wordsFrom_cons {p : Byte → Bool} {front : List Byte} (hfront : front ≠ []) (line : List Byte) :
    ∃ back others, wordsFrom p front line = (front ++ back) :: others := by
  induction line generalizing front with
  | nil => exact ⟨[], [], by rw [wordsFrom, if_neg hfront, List.append_nil]⟩
  | cons b line ih =>
      rw [wordsFrom]
      split
      · exact ⟨[], wordsFrom p [] line, by rw [List.append_nil]⟩
      · obtain ⟨back, others, heq⟩ := ih (List.append_ne_nil_of_left_ne_nil hfront [b])
        exact ⟨b :: back, others, by rw [heq, List.append_assoc, List.singleton_append]⟩

/-- A line that begins with a hash has a first word that does. -/
theorem cliTokens_hash (line : List Byte) :
    ∃ back others, cliTokens (byte '#' :: line) = (byte '#' :: back) :: others := by
  have hdrop : (byte '#' :: line).dropWhile isCSpace = byte '#' :: line :=
    List.dropWhile_cons_of_neg (by decide)
  have hchain : ∃ rest, beforeChain (byte '#' :: line) = byte '#' :: rest := by
    cases line with
    | nil => exact ⟨[], rfl⟩
    | cons b line =>
        rw [beforeChain, if_neg (by rintro ⟨h, -⟩; revert h; decide)]
        exact ⟨_, rfl⟩
  obtain ⟨rest, hrest⟩ := hchain
  obtain ⟨back, others, heq⟩ := @wordsFrom_cons isCliBlank [byte '#'] (List.cons_ne_nil _ _) rest
  have hwords : wordsFrom isCliBlank [] (byte '#' :: rest) = (byte '#' :: back) :: others := by
    rw [wordsFrom, if_neg (by decide)]
    exact heq
  refine ⟨back, others.take 31, ?_⟩
  rw [cliTokens, cliRawLine, hdrop, hrest, hwords]
  rfl

theorem cliParseTokens_hash (back : List Byte) (others : List (List Byte)) :
    cliParseTokens (byte '#' :: back) others = none := by
  have hname (name : List Byte) (hplain : (name.map lower).head? ≠ some (byte '#')) :
      eqIgnoreCase (byte '#' :: back) name ≠ true := by
    intro h
    rw [← eqIgnoreCase_iff.mp h] at hplain
    exact hplain rfl
  have hnoun : cliStringToNoun (byte '#' :: back) = .none := by
    by_contra hne
    refine hname _ ?_ ((cliStringToNoun_eq_iff hne).mp rfl)
    cases cliStringToNoun (byte '#' :: back) <;> decide
  have hverb : cliStringToVerb (byte '#' :: back) = .none := by
    by_contra hne
    refine hname _ ?_ ((cliStringToVerb_eq_iff hne).mp rfl)
    cases cliStringToVerb (byte '#' :: back) <;> decide
  cases others with
  | nil => rw [cliParseTokens, if_pos hverb]
  | cons second others => rw [cliParseTokens, if_neg (not_not.mpr hnoun), if_neg (not_not.mpr hverb)]

theorem CliSurroundings.Starts.head_ne {input : List Byte} (h : around.Starts input filename) :
    input.head? ≠ some (byte '#') := by
  intro hhead
  obtain ⟨line, rfl⟩ : ∃ line, input = byte '#' :: line := by
    cases input with
    | nil => cases hhead
    | cons b line => exact ⟨line, congrArg (· :: line) (Option.some.inj hhead)⟩
  obtain ⟨raw, more, hparsed⟩ := h.parsed
  obtain ⟨back, others, htokens⟩ := cliTokens_hash line
  rw [cliParseLine, if_neg (dropWhile_ne_nil_of_cliTokens htokens), htokens] at hparsed
  dsimp only at hparsed
  rw [cliParseTokens_hash] at hparsed
  cases (Prod.mk.inj hparsed).2

/-- A line without carriage returns is in a script what it was when it was typed, but for the blanks before it. -/
theorem cliScriptCommand_typed {line : List Byte} (hreturn : byte '\r' ∉ cliTypedLine line) :
    cliScriptCommand (cliTypedLine line)
      = if (cliTypedLine line).dropWhile isBlank = [] ∨ ((cliTypedLine line).dropWhile isBlank).head? = some (byte '#')
        then none else some ((cliTypedLine line).dropWhile isBlank) := by
  have hall : (cliTypedLine line).takeWhile isScriptText = cliTypedLine line := by
    rw [List.takeWhile_eq_self_iff]
    intro b hmem
    have htyped := List.mem_takeWhile_imp hmem
    have hne : b ≠ byte '\r' := fun heq => hreturn (heq ▸ hmem)
    rw [isScriptText]
    rw [Bool.not_eq_true', Bool.or_eq_false_iff] at htyped
    rw [Bool.not_eq_true', Bool.or_eq_false_iff, Bool.or_eq_false_iff]
    exact ⟨⟨htyped.1, htyped.2⟩, decide_eq_false hne⟩
  rw [cliScriptCommand, hall]

theorem CliSurroundings.Starts.scriptCommand {line : List Byte} (h : around.Starts (cliTypedLine line) filename)
    (hreturn : byte '\r' ∉ cliTypedLine line) :
    cliScriptCommand (cliTypedLine line) = some ((cliTypedLine line).dropWhile isBlank) := by
  rw [cliScriptCommand_typed hreturn, if_neg (not_or.mpr ⟨h.dropBlanks.ne_nil, h.dropBlanks.head_ne⟩)]

end Running

/-- **A recording that is run is lost**: its first command is the one that started it, which starts it anew. What is
left of the file is the header, and the recording goes on. -/
theorem cli_recording_loses_itself {σ : Type} {around : CliSurroundings σ}
    (execute : CliState σ → List Byte → CliResult σ) {filename : List Byte} (hspares : around.Spares filename)
    {state : CliState σ} (hidle : state.recorder = none) (hstopped : state.running = false)
    {stdin start : List Byte} {lines : List (List Byte)} (hstdin : fgetsLines cliMaxLineLen [] stdin = start :: lines)
    (hstart : around.Starts (cliTypedLine start) filename)
    (hnoun : ∀ line ∈ lines, (cliParseLine (cliTypedLine line)).1.noun ≠ .script)
    (hreturn : ∀ line ∈ start :: lines, byte '\r' ∉ cliTypedLine line) (descriptors : Nat) :
    ∃ session replayed,
      session = (cliRecordStop (cliStartInteractiveMode (cliProcessCommand around execute) state stdin)).1
        ∧ replayed = (cliScriptExecute around (descriptors + 1) session filename).1
        ∧ replayed.recorder = some filename ∧ replayed.files filename = some (cliRecordHeader around) := by
  have hsession : (cliStartInteractiveMode (cliProcessCommand around execute) state stdin).Records filename
      (cliRecordHeader around ++ (cliTypedLine start :: cliTyped lines).flatMap (· ++ [byte '\n'])) := by
    rw [cliStartInteractiveMode, if_neg (Bool.eq_false_iff.mp hstopped), hstdin]
    exact @records_session _ _ execute _ _ _ { state with running := true } hidle rfl hspares hstart hnoun
  have hcommands := cliScriptCommands_recording around hstdin
  rw [List.filterMap_cons_some (hstart.scriptCommand (hreturn start List.mem_cons_self))] at hcommands
  have hreplay := records_cliScriptExecute hspares hcommands hstart.dropBlanks ?_ hsession.stop.1 hsession.stop.2
    descriptors
  · exact ⟨_, _, rfl, rfl, hreplay.recorder, hreplay.file⟩
  · intro command hcommand
    obtain ⟨typed, htyped, hsome⟩ := List.mem_filterMap.mp hcommand
    obtain ⟨line, hline, rfl⟩ := exists_of_mem_cliTyped htyped
    rw [cliScriptCommand_typed (hreturn line (List.mem_cons_of_mem start hline))] at hsome
    split at hsome
    · cases hsome
    · rw [← Option.some.inj hsome, cliParseLine_dropBlanks]
      exact hnoun line hline

theorem cli_recording_loses_ue_list :
    ∃ session replayed,
      session = (cliRecordStop (cliStartInteractiveMode
          (cliProcessCommand cliIdleSurroundings (cliScriptExecute cliIdleSurroundings 1)) cliIdleState
          (text "script record f\n\n ue list\n"))).1
        ∧ replayed = (cliScriptExecute cliIdleSurroundings 1 session (text "f")).1
        ∧ replayed.recorder = some (text "f")
        ∧ replayed.files (text "f") = some (cliRecordHeader cliIdleSurroundings) := by
  have hstdin : fgetsLines cliMaxLineLen [] (text "script record f\n\n ue list\n")
      = [text "script record f\n", text "\n", text " ue list\n"] := by decide +kernel
  exact cli_recording_loses_itself (cliScriptExecute cliIdleSurroundings 1) (fun _ _ => rfl)
    (show cliIdleState.recorder = none from rfl) rfl hstdin starts_script_record (by decide +kernel)
    (by decide +kernel) 0

end Uesim
