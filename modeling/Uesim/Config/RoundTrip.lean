import Uesim.Config.File

/-!
# What comes back from a file

A line is read under the key that has been written, in the section it has been written in. What is set by it
depends on what the value looks like, not on what the key stands for.
-/

namespace Uesim

open Bytes Text

/-! ### The keys -/

theorem StringKey.isKey_name (key : StringKey) : IsKey (text key.name) := by
  cases key <;> exact .of_isKey (by decide +kernel)

theorem IntKey.isKey_name (key : IntKey) : IsKey (text key.name) := by
  cases key <;> exact .of_isKey (by decide +kernel)

theorem BoolKey.isKey_name (key : BoolKey) : IsKey (text key.name) := by
  cases key <;> exact .of_isKey (by decide +kernel)

/-- A string is found by its name among the strings of its section only. -/
theorem StringKey.lookup_name (key : StringKey) :
    key.configSection.stringKey (text key.name) = some key
      ∧ key.configSection.intKey (text key.name) = none
      ∧ key.configSection.boolKey (text key.name) = none := by
  cases key <;> decide +kernel

theorem IntKey.lookup_name (key : IntKey) :
    key.configSection.intKey (text key.name) = some key
      ∧ key.configSection.stringKey (text key.name) = none := by
  cases key <;> decide +kernel

theorem BoolKey.lookup_name (key : BoolKey) : key.configSection.boolKey (text key.name) = some key := by
  cases key <;> decide +kernel

namespace ConfigItem

def configSection : ConfigItem → ConfigSection
  | .string key => key.configSection
  | .int key => key.configSection
  | .bool key => key.configSection

theorem isKey_name (item : ConfigItem) : IsKey (text item.name) := by
  cases item with
  | string key => exact key.isKey_name
  | int key => exact key.isKey_name
  | bool key => exact key.isKey_name

end ConfigItem

/-! ### The values -/

section Values

variable {n : Nat} {value : List Byte}

theorem isValue_of_digits (h : ∀ b ∈ value, isDigit b = true ∨ b = byte '-') : IsValue value := by
  have hplain (b : Byte) (hb : isDigit b = true ∨ b = byte '-') :
      (b ≠ 0 ∧ b ≠ byte '#' ∧ b ≠ byte '\n' ∧ b ≠ byte '\r') ∧ isBlank b = false := by
    revert b
    decide
  exact {
    plain := fun b hb => (hplain b (h b hb)).1
    head := fun b hb => (hplain b (h b (List.mem_of_mem_head? hb))).2
    last := fun b hb => (hplain b (h b (List.mem_of_getLast? hb))).2 }

theorem isValue_decimal (n : Nat) : IsValue (decimal n) :=
  isValue_of_digits fun _ hb => .inl (isDigit_of_mem_decimal hb)

theorem isValue_minus_decimal (n : Nat) : IsValue (byte '-' :: decimal n) := by
  refine isValue_of_digits fun b hb => ?_
  rcases List.mem_cons.mp hb with rfl | hdigit
  · exact .inr rfl
  · exact .inl (isDigit_of_mem_decimal hdigit)

theorem isIntText_iff : isIntText value = true ↔ ∀ b ∈ value, isDigit b = true := by
  unfold isIntText
  rw [decide_eq_true_eq]
  constructor
  · intro h
    rw [← List.takeWhile_eq_self_iff]
    exact List.IsPrefix.eq_of_length (List.takeWhile_prefix _) h
  · intro h
    rw [List.takeWhile_eq_self_iff.mpr h]

theorem lower_ne_flag {b : Byte} (hb : isDigit b = true ∨ b = byte '-') :
    lower b ≠ lower (byte 't') ∧ lower b ≠ lower (byte 'f') := by
  revert b
  decide

/-- Neither of the two words for a flag begins like a number. -/
theorem isBoolText_eq_false {b : Byte} (hhead : value.head? = some b) (hb : isDigit b = true ∨ b = byte '-') :
    isBoolText value = false := by
  obtain ⟨rest, rfl⟩ : ∃ rest, value = b :: rest := by
    cases value with
    | nil => cases hhead
    | cons first rest => exact ⟨rest, by rw [Option.some.inj hhead]⟩
  unfold isBoolText eqIgnoreCase
  rw [Bool.or_eq_false_iff, decide_eq_false_iff_not, decide_eq_false_iff_not]
  exact ⟨fun heq => (lower_ne_flag hb).1 (List.cons.inj heq).1,
    fun heq => (lower_ne_flag hb).2 (List.cons.inj heq).1⟩

theorem isBoolText_decimal (n : Nat) : isBoolText (decimal n) = false := by
  obtain ⟨b, rest, heq⟩ := List.exists_cons_of_ne_nil (decimal_ne_nil n)
  refine isBoolText_eq_false (b := b) (by rw [heq]; rfl) (.inl ?_)
  exact isDigit_of_mem_decimal (by rw [heq]; exact List.mem_cons_self)

theorem isIntText_decimal (n : Nat) : isIntText (decimal n) = true :=
  isIntText_iff.mpr fun _ hb => isDigit_of_mem_decimal hb

theorem isIntText_minus_decimal (n : Nat) : isIntText (byte '-' :: decimal n) = false := by
  rw [← Bool.not_eq_true, isIntText_iff]
  intro h
  exact absurd (h _ List.mem_cons_self) (by decide)

theorem isValue_intText (key : IntKey) (number : Word) : IsValue (intText key number) := by
  unfold intText
  split
  · exact isValue_decimal _
  · split
    · exact isValue_decimal _
    · exact isValue_minus_decimal _

theorem isValue_flag (flag : Bool) : IsValue (text (if flag then "true" else "false")) := by
  cases flag <;> exact ⟨by decide, by decide, by decide⟩

end Values

/-! ### Lines -/

/-- What `%u` has printed, as it is read. -/
def readUnsigned (overflow : Nat → Word) (value : Word) : Word :=
  if value.toNat < 2 ^ 31 then value else overflow value.toNat

/-- A value is read as a string if it does not look like a flag or a number. -/
def ReadsAsString (value : List Byte) : Prop := isBoolText value = false ∧ isIntText value = false

instance (value : List Byte) : Decidable (ReadsAsString value) :=
  inferInstanceAs (Decidable (_ ∧ _))

/-- What the line of a key sets. -/
def ConfigItem.read (overflow : Nat → Word) (saved config : Config) : ConfigItem → Config
  | .string key =>
      if ReadsAsString (saved.string key) then config.setString key (saved.string key) else config
  | .int key =>
      if key.Unsigned then config.setInt key (readUnsigned overflow (saved.int key))
      else if 0 ≤ (saved.int key).toInt then config.setInt key (saved.int key)
      else config
  | .bool key => config.setBool key (saved.bool key)

/-- The strings fit their arrays and the file can carry them. -/
structure Config.Carried (config : Config) : Prop where
  length_lt : ∀ key, (config.string key).length < key.capacity
  isValue : ∀ key, IsValue (config.string key)

section Lines

variable {overflow : Nat → Word} {saved config : Config}

theorem Config.Carried.isValue_valueText (h : saved.Carried) (item : ConfigItem) :
    IsValue (item.valueText saved) := by
  cases item with
  | string key => exact h.isValue key
  | int key => exact isValue_intText key _
  | bool key => exact isValue_flag _

theorem configSetValue_string (h : saved.Carried) (config : Config) (key : StringKey) :
    configSetValue overflow config key.configSection (text key.name) (saved.string key)
      = if ReadsAsString (saved.string key) then config.setString key (saved.string key) else config := by
  obtain ⟨hstring, hint, hbool⟩ := key.lookup_name
  unfold configSetValue
  cases hboolText : isBoolText (saved.string key) with
  | true =>
      have hreads : ¬ReadsAsString (saved.string key) := fun h => Bool.noConfusion (hboolText.symm.trans h.1)
      rw [if_pos rfl, if_neg hreads, configSetBool, hbool]
      rfl
  | false =>
      rw [if_neg Bool.false_ne_true]
      cases hintText : isIntText (saved.string key) with
      | true =>
          have hreads : ¬ReadsAsString (saved.string key) :=
            fun h => Bool.noConfusion (hintText.symm.trans h.2)
          rw [if_pos rfl, if_neg hreads, configSetInt, hint]
          rfl
      | false =>
          have hsome : key.configSection.stringKeys ≠ [] := by
            intro hnil
            rw [ConfigSection.stringKey, hnil] at hstring
            cases hstring
          have htake : (saved.string key).take (key.capacity - 1) = saved.string key :=
            List.take_of_length_le (Nat.le_sub_one_of_lt (h.length_lt key))
          have hreads : ReadsAsString (saved.string key) := ⟨hboolText, hintText⟩
          rw [if_neg Bool.false_ne_true, if_pos hreads, configSetString, if_neg hsome, hstring]
          dsimp only
          rw [htake]
          rfl

theorem atoi_decimal (n : Nat) :
    atoi overflow (decimal n) = if n < 2 ^ 31 then BitVec.ofNat 32 n else overflow n := by
  rw [atoi, decimalValue_decimal]

theorem configSetValue_decimal (config : Config) (key : IntKey) (n : Nat) :
    configSetValue overflow config key.configSection (text key.name) (decimal n)
      = config.setInt key (if n < 2 ^ 31 then BitVec.ofNat 32 n else overflow n) := by
  rw [configSetValue, isBoolText_decimal, if_neg Bool.false_ne_true, isIntText_decimal, if_pos rfl,
    configSetInt, key.lookup_name.1, atoi_decimal]
  rfl

/-- A number with a minus sign goes to the strings, where its key is not found. -/
theorem configSetValue_minus (config : Config) (key : IntKey) (n : Nat) :
    configSetValue overflow config key.configSection (text key.name) (byte '-' :: decimal n) = config := by
  have hbool : isBoolText (byte '-' :: decimal n) = false := isBoolText_eq_false rfl (.inr rfl)
  rw [configSetValue, hbool, if_neg Bool.false_ne_true, isIntText_minus_decimal, if_neg Bool.false_ne_true,
    configSetString]
  split
  · rfl
  · rw [key.lookup_name.2]
    rfl

theorem toInt_eq_toNat {value : Word} (h : 0 ≤ value.toInt) :
    value.toInt.toNat = value.toNat ∧ value.toNat < 2 ^ 31 := by
  have hlt : 2 * value.toNat < 2 ^ 32 := by
    rw [← Nat.not_le, ← BitVec.toInt_neg_iff]
    exact Int.not_lt.mpr h
  rw [BitVec.toInt_eq_toNat_of_lt hlt]
  exact ⟨Int.toNat_natCast _, by omega⟩

theorem configSetValue_int (config : Config) (key : IntKey) (value : Word) :
    configSetValue overflow config key.configSection (text key.name) (intText key value)
      = if key.Unsigned then config.setInt key (readUnsigned overflow value)
        else if 0 ≤ value.toInt then config.setInt key value
        else config := by
  have hword : BitVec.ofNat 32 value.toNat = value := by rw [BitVec.ofNat_toNat, BitVec.setWidth_eq]
  unfold intText
  split
  · rw [configSetValue_decimal, hword]
    rfl
  · split
    · rename_i hpos
      obtain ⟨htoNat, hlt⟩ := toInt_eq_toNat hpos
      rw [configSetValue_decimal, htoNat, if_pos hlt, hword]
    · exact configSetValue_minus config key _

theorem configSetValue_bool (config : Config) (key : BoolKey) (flag : Bool) :
    configSetValue overflow config key.configSection (text key.name) (text (if flag then "true" else "false"))
      = config.setBool key flag := by
  have htext : isBoolText (text (if flag then "true" else "false")) = true
      ∧ eqIgnoreCase (text (if flag then "true" else "false")) (text "true") = flag := by
    cases flag <;> decide
  rw [configSetValue, if_pos htext.1, htext.2, configSetBool, key.lookup_name]
  rfl

theorem configSetValue_item (h : saved.Carried) (config : Config) (item : ConfigItem) :
    configSetValue overflow config item.configSection (text item.name) (item.valueText saved)
      = item.read overflow saved config := by
  cases item with
  | string key => exact configSetValue_string h config key
  | int key => exact configSetValue_int config key _
  | bool key => exact configSetValue_bool config key _

/-- **The line of a key is read under the key.** -/
theorem configParseLine_item (h : saved.Carried) (config : Config) (item : ConfigItem) :
    configParseLine overflow (config, item.configSection) (item.line saved)
      = (item.read overflow saved config, item.configSection) := by
  have hkey := item.isKey_name
  have hvalue := h.isValue_valueText item
  obtain ⟨first, rest, heq⟩ := List.exists_cons_of_ne_nil hkey.ne_nil
  have hfirst := (hkey.plain first (by rw [heq]; exact List.mem_cons_self)).2.2.2.1
  rw [configParseLine, ConfigItem.line, strip_keyLine hkey hvalue]
  dsimp only
  rw [keyOf_append hkey, valueOf_append hkey hvalue, configSetValue_item h]
  have hne : text item.name ++ text " =" ++ afterEquals (item.valueText saved) ≠ [] := by
    rw [heq]
    exact List.cons_ne_nil _ _
  have hhead :
      (text item.name ++ text " =" ++ afterEquals (item.valueText saved)).head? ≠ some (byte '[') := by
    rw [heq]
    exact fun hopen => hfirst (Option.some.inj hopen)
  have hequals : byte '=' ∈ text item.name ++ text " =" ++ afterEquals (item.valueText saved) :=
    List.mem_append_left _ (List.mem_append_right _ (by decide))
  rw [if_neg hne, if_neg hhead, if_pos hequals]

theorem configParseLine_empty (state : Config × ConfigSection) :
    configParseLine overflow state [byte '\n'] = state := by
  rfl

theorem configParseLine_comment (state : Config × ConfigSection) :
    configParseLine overflow state (text "# 5G UE Simulation Configuration File" ++ [byte '\n']) = state := by
  rfl

theorem configParseLine_header (state : Config × ConfigSection) (current : ConfigSection) :
    configParseLine overflow state current.header = (state.1, current) := by
  cases current <;> rfl

theorem configSection_of_mem_items (current : ConfigSection) :
    ∀ item ∈ current.items, item.configSection = current := by
  cases current <;> decide

theorem foldl_items (h : saved.Carried) {current : ConfigSection} {items : List ConfigItem}
    (hitems : ∀ item ∈ items, item.configSection = current) (config : Config) :
    (items.map (·.line saved)).foldl (configParseLine overflow) (config, current)
      = (items.foldl (fun config item => item.read overflow saved config) config, current) := by
  induction items generalizing config with
  | nil => rfl
  | cons item items ih =>
      have hline : configParseLine overflow (config, item.configSection) (item.line saved) = _ :=
        configParseLine_item h config item
      rw [hitems item List.mem_cons_self] at hline
      rw [List.map_cons, List.foldl_cons, List.foldl_cons, hline]
      exact ih (fun other hmem => hitems other (List.mem_cons_of_mem _ hmem)) _

theorem foldl_sections (h : saved.Carried) (sections : List ConfigSection) (state : Config × ConfigSection) :
    ((sections.flatMap fun current => [byte '\n'] :: current.lines saved).foldl
        (configParseLine overflow) state).1
      = (sections.flatMap ConfigSection.items).foldl (fun config item => item.read overflow saved config)
        state.1 := by
  induction sections generalizing state with
  | nil => rfl
  | cons current sections ih =>
      rw [List.flatMap_cons, List.flatMap_cons, List.foldl_append, List.foldl_append, List.foldl_cons,
        configParseLine_empty, ConfigSection.lines, List.foldl_cons, configParseLine_header,
        foldl_items h (configSection_of_mem_items current)]
      exact ih _

theorem length_intText_le (key : IntKey) (value : Word) : (intText key value).length ≤ 11 := by
  have hword := value.isLt
  have hle := BitVec.le_toInt value
  have hlt := BitVec.toInt_lt (x := value)
  unfold intText
  split
  · exact Nat.le_trans (length_decimal_le (k := 9) (by omega)) (by decide)
  · split
    · exact Nat.le_trans (length_decimal_le (k := 9) (by omega)) (by decide)
    · exact Nat.succ_le_succ (length_decimal_le (k := 9) (by omega))

theorem length_valueText_lt (h : saved.Carried) (item : ConfigItem) :
    (item.valueText saved).length < 256 := by
  cases item with
  | string key =>
      refine Nat.lt_of_lt_of_le (h.length_lt key) ?_
      cases key <;> decide
  | int key => exact Nat.lt_of_le_of_lt (length_intText_le key _) (by decide)
  | bool key =>
      change (text (if saved.bool key then "true" else "false")).length < 256
      cases saved.bool key <;> decide

theorem isLine_item (h : saved.Carried) (item : ConfigItem) : IsLine 1024 (item.line saved) where
  ends := by
    refine ⟨text item.name ++ text " = " ++ item.valueText saved, rfl, ?_⟩
    rw [List.mem_append, List.mem_append]
    rintro ((hkey | hequals) | hvalue)
    · exact absurd (item.isKey_name.plain _ hkey).2.2.2.2 (by decide)
    · exact absurd hequals (by decide)
    · exact ((h.isValue_valueText item).plain _ hvalue).2.2.1 rfl
  length_lt := by
    have hkey := item.isKey_name.length_lt
    have hvalue := length_valueText_lt h item
    have hequals : (text " = ").length = 3 := by decide
    rw [ConfigItem.line, List.length_append, List.length_append, List.length_append, hequals,
      List.length_singleton]
    omega

theorem isLine_header (current : ConfigSection) : IsLine 1024 current.header := by
  cases current <;> exact ⟨⟨_, rfl, by decide⟩, by decide⟩

theorem isLine_of_mem_configLines (h : saved.Carried) : ∀ line ∈ configLines saved, IsLine 1024 line := by
  intro line hline
  rcases List.mem_cons.mp hline with rfl | hrest
  · exact ⟨⟨_, rfl, by decide⟩, by decide⟩
  · obtain ⟨current, -, hmem⟩ := List.mem_flatMap.mp hrest
    rcases List.mem_cons.mp hmem with rfl | hlines
    · exact ⟨⟨[], rfl, by decide⟩, by decide⟩
    · rcases List.mem_cons.mp hlines with rfl | hitem
      · exact isLine_header current
      · obtain ⟨item, -, rfl⟩ := List.mem_map.mp hitem
        exact isLine_item h item

theorem configParseFile_eq_foldl (h : saved.Carried) (config : Config) :
    configParseFile overflow config (configWriteFile saved)
      = (configSections.flatMap ConfigSection.items).foldl
        (fun config item => item.read overflow saved config) config := by
  rw [configParseFile, configWriteFile, fgetsLines_flatten (isLine_of_mem_configLines h), configLines,
    List.foldl_cons, configParseLine_comment]
  exact foldl_sections h configSections _

end Lines

/-! ### The configuration that comes back -/

/-- A fold that only changes something at one of its items, and there in one way. -/
theorem foldl_get {σ α β : Type} [DecidableEq α] {step : σ → α → σ} (get : σ → β) (a : α) (f : β → β)
    (hself : ∀ s, get (step s a) = f (get s)) (hother : ∀ s x, x ≠ a → get (step s x) = get s)
    (hidem : ∀ b, f (f b) = f b) (items : List α) (s : σ) :
    get (items.foldl step s) = if a ∈ items then f (get s) else get s := by
  induction items generalizing s with
  | nil => rfl
  | cons x items ih =>
      rw [List.foldl_cons, ih]
      by_cases hx : x = a
      · rw [hx, hself, if_pos List.mem_cons_self, hidem, ite_self]
      · have hmem : a ∈ x :: items ↔ a ∈ items := by rw [List.mem_cons, or_iff_right (Ne.symm hx)]
        rw [hother s x hx, if_congr hmem rfl rfl]

/-- What a saved configuration is when it is read over another one. -/
def Config.readBack (overflow : Nat → Word) (saved config : Config) : Config where
  string key := if ReadsAsString (saved.string key) then saved.string key else config.string key
  int key :=
    if key.Unsigned then readUnsigned overflow (saved.int key)
    else if 0 ≤ (saved.int key).toInt then saved.int key
    else config.int key
  bool := saved.bool

theorem StringKey.mem_items (key : StringKey) :
    .string key ∈ configSections.flatMap ConfigSection.items := by
  cases key <;> decide

theorem IntKey.mem_items (key : IntKey) : .int key ∈ configSections.flatMap ConfigSection.items := by
  cases key <;> decide

theorem BoolKey.mem_items (key : BoolKey) : .bool key ∈ configSections.flatMap ConfigSection.items := by
  cases key <;> decide

section ReadBack

variable {overflow : Nat → Word} {saved : Config}

theorem string_foldl (key : StringKey) (config : Config) :
    ((configSections.flatMap ConfigSection.items).foldl
        (fun config item => item.read overflow saved config) config).string key
      = (saved.readBack overflow config).string key := by
  refine (foldl_get (fun config : Config => config.string key) (.string key)
    (fun value => if ReadsAsString (saved.string key) then saved.string key else value)
    ?_ ?_ ?_ _ config).trans (if_pos key.mem_items)
  · intro config
    unfold ConfigItem.read
    dsimp only
    split
    · exact Function.update_self ..
    · rfl
  · intro config item hne
    cases item with
    | string other =>
        unfold ConfigItem.read
        dsimp only
        split
        · exact Function.update_of_ne (fun heq => hne (congrArg _ heq.symm)) ..
        · rfl
    | int other =>
        unfold ConfigItem.read
        dsimp only
        split_ifs <;> rfl
    | bool other => rfl
  · intro value
    split <;> rfl

theorem int_foldl (key : IntKey) (config : Config) :
    ((configSections.flatMap ConfigSection.items).foldl
        (fun config item => item.read overflow saved config) config).int key
      = (saved.readBack overflow config).int key := by
  refine (foldl_get (fun config : Config => config.int key) (.int key)
    (fun value => if key.Unsigned then readUnsigned overflow (saved.int key)
      else if 0 ≤ (saved.int key).toInt then saved.int key else value)
    ?_ ?_ ?_ _ config).trans (if_pos key.mem_items)
  · intro config
    unfold ConfigItem.read
    dsimp only
    split_ifs
    · exact Function.update_self ..
    · exact Function.update_self ..
    · rfl
  · intro config item hne
    cases item with
    | string other =>
        unfold ConfigItem.read
        dsimp only
        split <;> rfl
    | int other =>
        have hkey : key ≠ other := fun heq => hne (congrArg _ heq.symm)
        unfold ConfigItem.read
        dsimp only
        split_ifs
        · exact Function.update_of_ne hkey ..
        · exact Function.update_of_ne hkey ..
        · rfl
    | bool other => rfl
  · intro value
    split_ifs <;> rfl

theorem bool_foldl (key : BoolKey) (config : Config) :
    ((configSections.flatMap ConfigSection.items).foldl
        (fun config item => item.read overflow saved config) config).bool key
      = (saved.readBack overflow config).bool key := by
  refine (foldl_get (fun config : Config => config.bool key) (.bool key) (fun _ => saved.bool key)
    ?_ ?_ ?_ _ config).trans (if_pos key.mem_items)
  · intro config
    exact Function.update_self ..
  · intro config item hne
    cases item with
    | string other =>
        unfold ConfigItem.read
        dsimp only
        split <;> rfl
    | int other =>
        unfold ConfigItem.read
        dsimp only
        split_ifs <;> rfl
    | bool other => exact Function.update_of_ne (fun heq => hne (congrArg _ heq.symm)) ..
  · intro value
    rfl

/-- **What is read from the file of a configuration, key by key.** -/
theorem configParseFile_configWriteFile (h : saved.Carried) (config : Config) :
    configParseFile overflow config (configWriteFile saved) = saved.readBack overflow config := by
  rw [configParseFile_eq_foldl h]
  ext1
  · exact funext fun key => string_foldl key config
  · exact funext fun key => int_foldl key config
  · exact funext fun key => bool_foldl key config

/-! ### Valid configurations -/

theorem runChecks_eq_ok {config : Config} {checks : List ConfigCheck} (h : runChecks config checks = .ok ()) :
    ∀ check ∈ checks, check.low ≤ (config.int check.key).toInt := by
  induction checks with
  | nil => exact fun check hmem => absurd hmem List.not_mem_nil
  | cons first checks ih =>
      obtain ⟨_, hfirst, hrest⟩ := exists_of_bind_eq_ok h
      intro check hmem
      rcases List.mem_cons.mp hmem with rfl | hlater
      · unfold ConfigCheck.run at hfirst
        dsimp only at hfirst
        split at hfirst
        · cases hfirst
        · rename_i hgood
          exact Int.not_lt.mp (not_or.mp hgood).1
      · exact ih hrest check hlater

def configChecks : List ConfigCheck :=
  configValidateGeneral ++ configValidateNetwork ++ configValidateRrc ++ configValidatePdcp
    ++ configValidateRlc ++ configValidateMac ++ configValidateNas ++ configValidatePerformance
    ++ configValidateSecurity ++ configValidateTest

theorem configValidate_eq_ok {config : Config} (h : configValidate config = .ok ()) :
    ∀ check ∈ configChecks, check.low ≤ (config.int check.key).toInt := by
  obtain ⟨_, hgeneral, h⟩ := exists_of_bind_eq_ok h
  obtain ⟨_, hnetwork, h⟩ := exists_of_bind_eq_ok h
  obtain ⟨-, -, h⟩ := exists_of_bind_eq_ok h
  obtain ⟨_, hrrc, h⟩ := exists_of_bind_eq_ok h
  obtain ⟨_, hpdcp, h⟩ := exists_of_bind_eq_ok h
  obtain ⟨_, hrlc, h⟩ := exists_of_bind_eq_ok h
  obtain ⟨_, hmac, h⟩ := exists_of_bind_eq_ok h
  obtain ⟨_, hnas, h⟩ := exists_of_bind_eq_ok h
  obtain ⟨_, hperformance, h⟩ := exists_of_bind_eq_ok h
  obtain ⟨_, hsecurity, htest⟩ := exists_of_bind_eq_ok h
  unfold configChecks
  simp only [List.forall_mem_append]
  exact ⟨⟨⟨⟨⟨⟨⟨⟨⟨runChecks_eq_ok hgeneral, runChecks_eq_ok hnetwork⟩, runChecks_eq_ok hrrc⟩,
    runChecks_eq_ok hpdcp⟩, runChecks_eq_ok hrlc⟩, runChecks_eq_ok hmac⟩, runChecks_eq_ok hnas⟩,
    runChecks_eq_ok hperformance⟩, runChecks_eq_ok hsecurity⟩, runChecks_eq_ok htest⟩

/-- Every signed number but `thread_pool_size` is checked not to be negative. -/
theorem IntKey.exists_check (key : IntKey) :
    key.Unsigned ∨ key = .threadPoolSize ∨ ∃ check ∈ configChecks, check.key = key ∧ 0 ≤ check.low := by
  cases key <;> decide

theorem toInt_nonneg_of_configValidate {config : Config} (h : configValidate config = .ok ())
    {key : IntKey} (hsigned : ¬key.Unsigned) (hchecked : key ≠ .threadPoolSize) :
    0 ≤ (config.int key).toInt := by
  rcases key.exists_check with hunsigned | rfl | ⟨check, hmem, rfl, hlow⟩
  · exact absurd hunsigned hsigned
  · exact absurd rfl hchecked
  · exact Int.le_trans hlow (configValidate_eq_ok h check hmem)

/-! ### The round trip -/

/-- Every string looks like one or is the default, `thread_pool_size` is not negative, and what is printed
with `%u` is an `int`, or `atoi` makes the same of it. -/
structure Config.ComesBack (overflow : Nat → Word) (saved : Config) : Prop where
  string : ∀ key, ReadsAsString (saved.string key) ∨ saved.string key = configLoadDefault.string key
  threadPoolSize : 0 ≤ (saved.int .threadPoolSize).toInt
  unsigned : ∀ key : IntKey, key.Unsigned →
    (saved.int key).toNat < 2 ^ 31 ∨ overflow (saved.int key).toNat = saved.int key

theorem string_readBack_eq_iff (key : StringKey) :
    (saved.readBack overflow configLoadDefault).string key = saved.string key
      ↔ ReadsAsString (saved.string key) ∨ saved.string key = configLoadDefault.string key := by
  unfold Config.readBack
  dsimp only
  split
  · rename_i hreads
    exact iff_of_true rfl (.inl hreads)
  · rename_i hreads
    rw [or_iff_right hreads]
    exact eq_comm

theorem int_readBack_eq_iff_of_unsigned {key : IntKey} (hunsigned : key.Unsigned) :
    (saved.readBack overflow configLoadDefault).int key = saved.int key
      ↔ (saved.int key).toNat < 2 ^ 31 ∨ overflow (saved.int key).toNat = saved.int key := by
  unfold Config.readBack readUnsigned
  dsimp only
  rw [if_pos hunsigned]
  split
  · rename_i hsmall
    exact iff_of_true rfl (.inl hsmall)
  · rename_i hlarge
    rw [or_iff_right hlarge]

theorem configLoadDefault_nonneg (key : IntKey) : 0 ≤ (configLoadDefault.int key).toInt := by
  cases key <;> decide

/-- No default is negative, so a negative number does not come back. -/
theorem int_readBack_eq_iff_of_signed {key : IntKey} (hsigned : ¬key.Unsigned) :
    (saved.readBack overflow configLoadDefault).int key = saved.int key ↔ 0 ≤ (saved.int key).toInt := by
  unfold Config.readBack
  dsimp only
  rw [if_neg hsigned]
  split
  · rename_i hnonneg
    exact iff_of_true rfl hnonneg
  · rename_i hnegative
    refine iff_of_false (fun hsame => hnegative ?_) hnegative
    rw [← hsame]
    exact configLoadDefault_nonneg key

theorem readBack_eq_iff (hvalid : configValidate saved = .ok ()) :
    saved.readBack overflow configLoadDefault = saved ↔ saved.ComesBack overflow := by
  constructor
  · intro h
    exact {
      string := fun key => (string_readBack_eq_iff key).mp (congrFun (congrArg Config.string h) key)
      threadPoolSize :=
        (int_readBack_eq_iff_of_signed (by decide)).mp (congrFun (congrArg Config.int h) .threadPoolSize)
      unsigned := fun key hunsigned =>
        (int_readBack_eq_iff_of_unsigned hunsigned).mp (congrFun (congrArg Config.int h) key) }
  · intro h
    ext1
    · exact funext fun key => (string_readBack_eq_iff key).mpr (h.string key)
    · funext key
      by_cases hunsigned : key.Unsigned
      · exact (int_readBack_eq_iff_of_unsigned hunsigned).mpr (h.unsigned key hunsigned)
      · refine (int_readBack_eq_iff_of_signed hunsigned).mpr ?_
        by_cases hpool : key = .threadPoolSize
        · rw [hpool]
          exact h.threadPoolSize
        · exact toInt_nonneg_of_configValidate hvalid hunsigned hpool
    · rfl

end ReadBack

/-- **A valid configuration that the file can carry comes back from it exactly when its strings look like
strings, its pool size is not negative, and its unsigned numbers are not too large for `atoi`.** -/
theorem configParseFile_eq_iff (overflow : Nat → Word) {saved : Config}
    (hvalid : configValidate saved = .ok ()) (hcarried : saved.Carried) :
    configParseFile overflow configLoadDefault (configWriteFile saved) = saved
      ↔ saved.ComesBack overflow := by
  rw [configParseFile_configWriteFile hcarried]
  exact readBack_eq_iff hvalid

/-- The defaults but for an APN, a number of instances and a flag. -/
def configPrivateNetwork : Config :=
  ((configLoadDefault.setString .apn (text "private.net")).setInt .numInstances 4).setBool .verbose true

theorem configPrivateNetwork_carried : configPrivateNetwork.Carried where
  length_lt := by
    intro key
    cases key <;> decide +kernel
  isValue := by
    intro key
    cases key <;> exact .of_isValue (by decide +kernel)

theorem configPrivateNetwork_comesBack : configPrivateNetwork.ComesBack fun _ => 0 where
  string := by
    intro key
    by_cases hkey : key = .apn
    · subst hkey
      exact .inl (by decide +kernel)
    · exact .inr (Function.update_of_ne hkey _ _)
  threadPoolSize := by decide +kernel
  unsigned := by
    rintro key (rfl | rfl | rfl) <;> exact .inl (by decide +kernel)

theorem configParseFile_privateNetwork :
    configParseFile (fun _ => 0) configLoadDefault (configWriteFile configPrivateNetwork)
      = configPrivateNetwork :=
  (configParseFile_eq_iff _ (by rfl) configPrivateNetwork_carried).mpr configPrivateNetwork_comesBack

/-- The mobile country code 310 comes back as 001. -/
theorem configParseFile_mcc :
    ¬∀ (overflow : Nat → Word) (saved : Config), configValidate saved = .ok () → saved.Carried →
      configParseFile overflow configLoadDefault (configWriteFile saved) = saved := by
  intro h
  have hcarried : (configLoadDefault.setString .mcc (text "310")).Carried := by
    refine ⟨fun key => ?_, fun key => ?_⟩
    · cases key <;> decide +kernel
    · cases key <;> exact .of_isValue (by decide +kernel)
  have hsaved := h (fun _ => 0) (configLoadDefault.setString .mcc (text "310")) (by rfl) hcarried
  rw [configParseFile_configWriteFile hcarried] at hsaved
  have hmcc := congrFun (congrArg Config.string hsaved) .mcc
  exact absurd hmcc (by decide +kernel)

end Uesim
