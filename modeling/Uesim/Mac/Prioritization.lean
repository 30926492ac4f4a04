import Uesim.Library.ExchangeSort
import Uesim.Mac.LogicalChannels

/-!
# The table of logical channels

The channels are the first entries of a table of 32. Adding a channel writes the entry behind them, and
sorting them leaves the others where they are.
-/

namespace Uesim

open Bytes ExchangeSort

/-- All the entries, with the number of those that are configured. -/
structure MacLchTable where
  lchConfig : List MacLchInfo
  numLchConfigured : Byte
  size : lchConfig.length = 32
  configured : numLchConfigured.toNat ≤ 32

/-- The order in which channels are served. -/
def MacLchInfo.rank (info : MacLchInfo) : Nat := info.priority.toNat

theorem macPrioritizePass_eq (comparisons : Nat) (infos : List MacLchInfo) :
    macPrioritizePass comparisons infos = ExchangeSort.pass MacLchInfo.rank comparisons infos := by
  fun_induction macPrioritizePass comparisons infos with
  | case1 comparisons first second rest hswap ih =>
      have hrank : first.rank > second.rank := BitVec.lt_def.mp hswap
      rw [ExchangeSort.pass, if_pos hrank, ih]
  | case2 comparisons first second rest hswap ih =>
      have hrank : ¬first.rank > second.rank := fun h => hswap (BitVec.lt_def.mpr h)
      rw [ExchangeSort.pass, if_neg hrank, ih]
  | case3 comparisons infos hnone =>
      rw [ExchangeSort.pass]
      exact hnone

theorem macPrioritizeLoop_eq (rounds : Nat) (infos : List MacLchInfo) :
    macPrioritizeLoop rounds infos = sort MacLchInfo.rank rounds infos := by
  induction rounds generalizing infos with
  | zero => rfl
  | succ rounds ih => rw [macPrioritizeLoop, sort, macPrioritizePass_eq, ih]

namespace MacLchTable

/-- The configured channels. -/
def channels (table : MacLchTable) : List MacLchInfo := table.lchConfig.take table.numLchConfigured.toNat

/-- The entries behind them. -/
def others (table : MacLchTable) : List MacLchInfo := table.lchConfig.drop table.numLchConfigured.toNat

def configureLogicalChannel (table : MacLchTable) (info : MacLchInfo) :
    MacLchTable × Except UesimError Unit :=
  if info.lchId = .max then (table, .error .invalidParam)
  else if hroom : table.numLchConfigured < 32 then
    ({ lchConfig := table.lchConfig.set table.numLchConfigured.toNat info
       numLchConfigured := table.numLchConfigured + 1
       size := by rw [List.length_set, table.size]
       configured := by
         have hone : (1 : Byte).toNat = 1 := rfl
         have hlt : table.numLchConfigured.toNat < 32 := BitVec.lt_def.mp hroom
         rw [BitVec.toNat_add, hone]
         omega }, .ok ())
  else (table, .error .invalidParam)

def prioritizeLogicalChannels (table : MacLchTable) : MacLchTable :=
  { table with
    lchConfig := macPrioritizeLoop (table.numLchConfigured.toNat - 1) table.lchConfig
    size := (macPrioritizeLoop_perm _ _).length_eq.trans table.size }

variable (table : MacLchTable)

theorem length_channels : table.channels.length = table.numLchConfigured.toNat := by
  rw [channels, List.length_take, table.size]
  exact Nat.min_eq_left table.configured

theorem channels_append_others : table.channels ++ table.others = table.lchConfig :=
  List.take_append_drop table.numLchConfigured.toNat table.lchConfig

/-- Only the channels are sorted. -/
theorem lchConfig_prioritizeLogicalChannels :
    table.prioritizeLogicalChannels.lchConfig
      = sort MacLchInfo.rank (table.channels.length - 1) table.channels ++ table.others := by
  calc table.prioritizeLogicalChannels.lchConfig
      = sort MacLchInfo.rank (table.channels.length - 1) (table.channels ++ table.others) := by
        rw [channels_append_others, length_channels]
        exact macPrioritizeLoop_eq _ _
    _ = sort MacLchInfo.rank (table.channels.length - 1) table.channels ++ table.others :=
        sort_append MacLchInfo.rank (Nat.le_refl _) table.others

theorem length_sort_channels :
    (sort MacLchInfo.rank (table.channels.length - 1) table.channels).length = table.numLchConfigured.toNat :=
  (sort_rearranges MacLchInfo.rank _ table.channels).perm.length_eq.trans table.length_channels

theorem channels_prioritizeLogicalChannels :
    table.prioritizeLogicalChannels.channels
      = sort MacLchInfo.rank (table.channels.length - 1) table.channels := by
  rw [channels, lchConfig_prioritizeLogicalChannels]
  exact List.take_left' table.length_sort_channels

theorem others_prioritizeLogicalChannels : table.prioritizeLogicalChannels.others = table.others := by
  rw [others, lchConfig_prioritizeLogicalChannels]
  exact List.drop_left' table.length_sort_channels

theorem length_lt_iff : table.channels.length < 32 ↔ table.numLchConfigured < 32 := by
  rw [length_channels, BitVec.lt_def]
  exact Iff.rfl

theorem channels_configureLogicalChannel {table : MacLchTable} (hroom : table.numLchConfigured < 32)
    {info : MacLchInfo} (hid : info.lchId ≠ .max) :
    (table.configureLogicalChannel info).1.channels = table.channels ++ [info] := by
  have hlt : table.numLchConfigured.toNat < 32 := BitVec.lt_def.mp hroom
  have hone : (1 : Byte).toNat = 1 := rfl
  have hnum : (table.numLchConfigured + 1).toNat = table.numLchConfigured.toNat + 1 := by
    rw [BitVec.toNat_add, hone]
    omega
  rw [configureLogicalChannel, if_neg hid, dif_pos hroom]
  change (table.lchConfig.set table.numLchConfigured.toNat info).take (table.numLchConfigured + 1).toNat = _
  rw [hnum, List.take_succ_eq_append_getElem (by rw [List.length_set, table.size]; exact hlt),
    List.take_set_of_le (Nat.le_refl _), List.getElem_set_self]
  rfl

/-! ### The entity's list is the first part of the table -/

variable {table} {entity : MacEntity}

theorem configureLogicalChannel_entity (h : entity.config.lchConfig = table.channels) (info : MacLchInfo) :
    (macConfigureLogicalChannel entity info).2 = (table.configureLogicalChannel info).2
      ∧ (macConfigureLogicalChannel entity info).1.config.lchConfig
        = (table.configureLogicalChannel info).1.channels := by
  by_cases hid : info.lchId = .max
  · rw [macConfigureLogicalChannel, configureLogicalChannel, if_pos hid, if_pos hid]
    exact ⟨rfl, h⟩
  · by_cases hroom : table.numLchConfigured < 32
    · have hlength : entity.config.lchConfig.length < 32 := by rw [h]; exact table.length_lt_iff.mpr hroom
      rw [channels_configureLogicalChannel hroom hid, macConfigureLogicalChannel, if_neg hid, if_pos hlength,
        configureLogicalChannel, if_neg hid, dif_pos hroom]
      exact ⟨rfl, congrArg (· ++ [info]) h⟩
    · have hlength : ¬entity.config.lchConfig.length < 32 := by
        rw [h]
        exact fun hlt => hroom (table.length_lt_iff.mp hlt)
      rw [macConfigureLogicalChannel, if_neg hid, if_neg hlength, configureLogicalChannel, if_neg hid,
        dif_neg hroom]
      exact ⟨rfl, h⟩

theorem prioritizeLogicalChannels_entity (h : entity.config.lchConfig = table.channels) :
    (macPrioritizeLogicalChannels entity).config.lchConfig = table.prioritizeLogicalChannels.channels := by
  rw [channels_prioritizeLogicalChannels, ← h]
  exact macPrioritizeLoop_eq _ _

end MacLchTable

/-- **The channels are sorted by priority, those of the same priority stay in their order, and their number
and the entries behind them are left alone.** -/
theorem macPrioritizeLogicalChannels_sorts (table : MacLchTable) :
    table.prioritizeLogicalChannels.numLchConfigured = table.numLchConfigured
      ∧ table.prioritizeLogicalChannels.channels.Perm table.channels
      ∧ table.prioritizeLogicalChannels.channels.Pairwise (·.priority ≤ ·.priority)
      ∧ (∀ priority, table.prioritizeLogicalChannels.channels.filter (·.priority = priority)
        = table.channels.filter (·.priority = priority))
      ∧ table.prioritizeLogicalChannels.others = table.others := by
  have hrearranges := sort_rearranges MacLchInfo.rank (table.channels.length - 1) table.channels
  rw [← table.channels_prioritizeLogicalChannels] at hrearranges
  refine ⟨rfl, hrearranges.perm, ?_, fun priority => ?_, table.others_prioritizeLogicalChannels⟩
  · rw [table.channels_prioritizeLogicalChannels]
    exact sort_pairwise MacLchInfo.rank rfl
  · have hrank : ∀ info : MacLchInfo, info.priority = priority ↔ info.rank = priority.toNat :=
      fun info => BitVec.toNat_inj.symm
    simp only [hrank]
    exact hrearranges.stable priority.toNat

end Uesim
