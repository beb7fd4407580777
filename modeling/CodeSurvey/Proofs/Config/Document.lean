import CodeSurvey.Config.Document
import CodeSurvey.Proofs.Toml.Document

/-! The document of a configuration is read back as that configuration. -/

namespace CodeSurvey

open Text.Numeral (maxInt64 minInt64 maxWord32 maxWord64)
open Toml (Scalar Item Entries IsBare Orderly fieldsOf sectioned contents)

namespace Config

/-- Every number of a configuration is one of its machine type. -/
structure Sized (c : Config) : Prop where
  minStars : minInt64 ≤ c.search.minStars ∧ c.search.minStars ≤ maxInt64
  maxRepositories : c.search.maxRepositories ≤ maxWord64
  perPage : c.search.perPage ≤ maxWord64
  pauseSeconds : c.search.pauseSeconds ≤ maxWord64
  maxRetries : c.search.maxRetries ≤ maxWord32
  threads : ∀ n ∈ c.mining.threads, n ≤ maxWord64
  cloneDepth : c.mining.cloneDepth ≤ maxWord32

end Config

variable {α : Type} {entries : Entries} {k : String} {v : Scalar} {a : α} {o : Option α}
  {decode : Item → Option α} {c : Config}

def Section.ofEntries (entries : Entries) : Section := fun _ key => (fieldsOf entries).lookup? key

theorem Section.get_entry (hnodup : (entries.map Prod.fst).Nodup) (h : (k, v) ∈ entries)
    (hdecode : decode v.item = some a) (i : Nat) (standard : α) :
    (Section.ofEntries entries).get i k decode standard = some a := by
  simp only [Section.get, Section.ofEntries, Toml.lookup?_fieldsOf hnodup h, hdecode]

theorem natUpTo?_integer {limit n : Nat} (h : n ≤ limit) :
    Item.natUpTo? limit (.integer n) = some n := by
  rw [Item.natUpTo?, if_pos ⟨Int.natCast_nonneg n, Int.ofNat_le.2 h⟩, Int.toNat_natCast]

section Settings

variable (hnodup : (entries.map Prod.fst).Nodup) (i : Nat)

include hnodup

theorem Section.get_text {s : String} (h : (k, .text s) ∈ entries) (standard : String) :
    (Section.ofEntries entries).get i k Item.text? standard = some s :=
  Section.get_entry hnodup h (show Item.text? (.text s) = some s from rfl) i standard

theorem Section.get_int {n : Int} (h : (k, .integer n) ∈ entries) (standard : Int) :
    (Section.ofEntries entries).get i k Item.int? standard = some n :=
  Section.get_entry hnodup h (show Item.int? (.integer n) = some n from rfl) i standard

theorem Section.get_word {n : Nat} (h : (k, .integer n) ∈ entries) {limit : Nat} (hn : n ≤ limit)
    (standard : Nat) :
    (Section.ofEntries entries).get i k (Item.natUpTo? limit) standard = some n :=
  Section.get_entry hnodup h (natUpTo?_integer hn) i standard

theorem Section.get_bool {b : Bool} (h : (k, .bool b) ∈ entries) (standard : Bool) :
    (Section.ofEntries entries).get i k Item.bool? standard = some b :=
  Section.get_entry hnodup h (show Item.bool? (.bool b) = some b from rfl) i standard

theorem Section.get_optional {f : α → Scalar} (decode : Item → Option α)
    (h : ∀ a ∈ o, (k, f a) ∈ entries) (habsent : o = none → k ∉ entries.map Prod.fst)
    (hdecode : ∀ a ∈ o, decode (f a).item = some a) {standard : Option α}
    (hstandard : standard = none) :
    (Section.ofEntries entries).get i k (fun item => (decode item).map some) standard =
      some o := by
  subst hstandard
  cases o with
  | none =>
    have hnone : (fieldsOf entries).lookup? k = none := by
      rw [Toml.lookup?_eq_none_iff, fieldsOf, List.map_map]
      exact habsent rfl
    simp only [Section.get, Section.ofEntries, hnone]
  | some a =>
    have hread : (decode (f a).item).map some = some (some a) := by
      rw [hdecode a rfl, Option.map_some]
    exact Section.get_entry hnodup (h a rfl) hread i none

end Settings

namespace Config

theorem forall_mem_optionalEntry {key : String} {f : α → Scalar} {p : String × Scalar → Prop} :
    (∀ e ∈ optionalEntry key f o, p e) ↔ ∀ a ∈ o, p (key, f a) := by
  cases o <;> simp [optionalEntry]

theorem mem_optionalEntry_keys {key : String} {f : α → Scalar} :
    k ∈ (optionalEntry key f o).map Prod.fst ↔ k = key ∧ o ≠ none := by
  cases o <;> simp [optionalEntry, eq_comm]

theorem optionalEntry_keys (key : String) (f : α → Scalar) (o : Option α) :
    ((optionalEntry key f o).map Prod.fst).Sublist [key] := by
  cases o <;> simp [optionalEntry]

def searchKeys : List String :=
  ["api_url", "token", "language", "min_stars", "max_repos", "per_page", "window_pause_secs",
    "max_retries"]

@[simp] theorem searchBlock_keys (s : SearchSettings) :
    (searchBlock s).entries.map Prod.fst = searchKeys := rfl

def miningKeys : List String :=
  ["tool", "toolchain", "log_dir", "threads", "work_dir", "clone_depth", "remove_after_mining"]

theorem miningBlock_keys (s : MiningSettings) :
    ((miningBlock s).entries.map Prod.fst).Sublist miningKeys := by
  simp only [miningBlock, List.map_append]
  exact ((((List.Sublist.refl _).append (optionalEntry_keys ..)).append
    (optionalEntry_keys ..)).append (optionalEntry_keys ..)).append (List.Sublist.refl _)

theorem searchBlock_nodup (s : SearchSettings) : ((searchBlock s).entries.map Prod.fst).Nodup := by
  rw [searchBlock_keys]
  decide

theorem miningBlock_nodup (s : MiningSettings) : ((miningBlock s).entries.map Prod.fst).Nodup :=
  (by decide : miningKeys.Nodup).sublist (miningBlock_keys s)

theorem searchBlock_bare (s : SearchSettings) : ∀ e ∈ (searchBlock s).entries, IsBare e.1 := by
  intro e he
  have hkeys : ∀ k ∈ searchKeys, IsBare k := by decide
  exact hkeys e.1 (searchBlock_keys s ▸ List.mem_map_of_mem he)

theorem miningBlock_bare (s : MiningSettings) : ∀ e ∈ (miningBlock s).entries, IsBare e.1 := by
  intro e he
  have hkeys : ∀ k ∈ miningKeys, IsBare k := by decide
  exact hkeys e.1 ((miningBlock_keys s).subset (List.mem_map_of_mem he))

theorem Sized.search (h : c.Sized) :
    SearchSettings.ofSection? (.ofEntries (searchBlock c.search).entries) = some c.search := by
  have hnodup := searchBlock_nodup c.search
  obtain ⟨entries, hentries⟩ : ∃ entries, (searchBlock c.search).entries = entries := ⟨_, rfl⟩
  have hall : ∀ e ∈ (searchBlock c.search).entries, e ∈ entries := fun e he => hentries ▸ he
  simp only [searchBlock, List.forall_mem_cons] at hall
  obtain ⟨hurl, htoken, hlanguage, hstars, hrepositories, hpage, hpause, hretries, -⟩ := hall
  rw [hentries] at hnodup ⊢
  rw [SearchSettings.ofSection?, Section.get_text hnodup 0 hurl, Section.get_text hnodup 1 htoken,
    Section.get_text hnodup 2 hlanguage, Section.get_int hnodup 3 hstars]
  simp only [Section.get_word hnodup 4 hrepositories h.maxRepositories,
    Section.get_word hnodup 5 hpage h.perPage, Section.get_word hnodup 6 hpause h.pauseSeconds,
    Section.get_word hnodup 7 hretries h.maxRetries]
  rfl

theorem Sized.mining (h : c.Sized) :
    MiningSettings.ofSection? (.ofEntries (miningBlock c.mining).entries) = some c.mining := by
  have hnodup := miningBlock_nodup c.mining
  have hnoToolchain : c.mining.toolchain = none →
      "toolchain" ∉ (miningBlock c.mining).entries.map Prod.fst := by
    simp [miningBlock, mem_optionalEntry_keys, -List.mem_map]
  have hnoDirectory : c.mining.logDirectory = none →
      "log_dir" ∉ (miningBlock c.mining).entries.map Prod.fst := by
    simp [miningBlock, mem_optionalEntry_keys, -List.mem_map]
  have hnoThreads : c.mining.threads = none →
      "threads" ∉ (miningBlock c.mining).entries.map Prod.fst := by
    simp [miningBlock, mem_optionalEntry_keys, -List.mem_map]
  obtain ⟨entries, hentries⟩ : ∃ entries, (miningBlock c.mining).entries = entries := ⟨_, rfl⟩
  have hall : ∀ e ∈ (miningBlock c.mining).entries, e ∈ entries := fun e he => hentries ▸ he
  simp only [miningBlock, List.forall_mem_append, List.forall_mem_cons,
    forall_mem_optionalEntry] at hall
  obtain ⟨⟨⟨⟨⟨htool, -⟩, htoolchain⟩, hdirectory⟩, hthreads⟩, hwork, hdepth, hremove, -⟩ := hall
  rw [hentries] at hnodup hnoToolchain hnoDirectory hnoThreads ⊢
  have htoolchain' := Section.get_optional hnodup 1 Item.text? htoolchain hnoToolchain
    (fun _ _ => rfl) (show MiningSettings.standard.toolchain = none from rfl)
  have hdirectory' := Section.get_optional hnodup 2 Item.text? hdirectory hnoDirectory
    (fun _ _ => rfl) (show MiningSettings.standard.logDirectory = none from rfl)
  have hthreads' := Section.get_optional hnodup 3 (Item.natUpTo? maxWord64) hthreads hnoThreads
    (fun n hn => natUpTo?_integer (h.threads n hn))
    (show MiningSettings.standard.threads = none from rfl)
  rw [MiningSettings.ofSection?, Section.get_text hnodup 0 htool]
  simp only [htoolchain', hdirectory', hthreads', Section.get_text hnodup 4 hwork,
    Section.get_word hnodup 5 hdepth h.cloneDepth, Section.get_bool hnodup 6 hremove]
  rfl

def topEntries (c : Config) : Entries := [("database", .text c.database)]

def sections (c : Config) : List (String × Entries) :=
  [("search", (searchBlock c.search).entries), ("miner", (miningBlock c.mining).entries)]

theorem blocks_eq (c : Config) : c.blocks = sectioned c.topEntries c.sections := rfl

theorem orderly (c : Config) : Orderly c.topEntries c.sections where
  bareTop := by
    simp only [topEntries, List.forall_mem_singleton]
    decide
  bareSections := by
    simp only [sections, List.forall_mem_cons]
    exact ⟨⟨by decide, searchBlock_bare c.search⟩,
      ⟨by decide, miningBlock_bare c.mining⟩, fun _ h => absurd h List.not_mem_nil⟩
  nodupTop := by simp [topEntries, sections]
  nodupSections := by
    simp only [sections, List.forall_mem_cons]
    exact ⟨searchBlock_nodup c.search, miningBlock_nodup c.mining,
      fun _ h => absurd h List.not_mem_nil⟩

theorem Sized.ofFields? (h : c.Sized) :
    Config.ofFields? (contents c.topEntries c.sections) = some c := by
  have hdatabase : (contents c.topEntries c.sections).lookup? "database" =
    some (.text c.database) := rfl
  have hsearch : (contents c.topEntries c.sections).lookup? "search" =
    some (.table .header (fieldsOf (searchBlock c.search).entries)) := rfl
  have hmining : (contents c.topEntries c.sections).lookup? "miner" =
    some (.table .header (fieldsOf (miningBlock c.mining).entries)) := rfl
  have hsection (entries : Entries) :
      Section.ofItem? (.table .header (fieldsOf entries)) = some (.ofEntries entries) := rfl
  simp only [Config.ofFields?, ofSection?, Section.get, hdatabase, hsearch, hmining, hsection,
    Option.bind_some, h.search, h.mining]
  rfl

theorem Sized.parse?_write? (h : c.Sized) {text : String} (hwrite : c.write? = some text) :
    parse? text = some c := by
  rw [write?, blocks_eq] at hwrite
  rw [parse?, c.orderly.parse?_write? hwrite, Option.bind_some, h.ofFields?]

def Oversized (c : Config) : Prop :=
  maxInt64 < c.search.maxRepositories ∨ maxInt64 < c.search.perPage ∨
    maxInt64 < c.search.pauseSeconds ∨ ∃ n ∈ c.mining.threads, maxInt64 < n

@[simp] theorem fits_text (s : String) : (Scalar.text s).fits = true := rfl

@[simp] theorem fits_bool (b : Bool) : (Scalar.bool b).fits = true := rfl

theorem fits_integer {z : Int} (hlow : minInt64 ≤ z) (hhigh : z ≤ maxInt64) :
    (Scalar.integer z).fits = true := by
  rw [Scalar.fits, Bool.and_eq_true, decide_eq_true_eq, decide_eq_true_eq]
  exact ⟨hlow, hhigh⟩

@[simp] theorem fits_natCast {n : Nat} : (Scalar.integer n).fits = true ↔ n ≤ maxInt64 := by
  simp only [Scalar.fits, Bool.and_eq_true, decide_eq_true_eq]
  omega

theorem Sized.fits_iff (h : c.Sized) :
    (∀ b ∈ c.blocks, ∀ e ∈ b.entries, e.2.fits = true) ↔ ¬ c.Oversized := by
  have hretries : c.search.maxRetries ≤ maxInt64 := Nat.le_trans h.maxRetries (by decide)
  have hdepth : c.mining.cloneDepth ≤ maxInt64 := Nat.le_trans h.cloneDepth (by decide)
  simp only [blocks, searchBlock, miningBlock, List.forall_mem_cons, List.forall_mem_append,
    forall_mem_optionalEntry, fits_text, fits_bool, fits_natCast,
    fits_integer h.minStars.1 h.minStars.2, hretries, hdepth, Oversized]
  simp [and_assoc]

theorem Sized.write?_eq_none_iff (h : c.Sized) : c.write? = none ↔ c.Oversized := by
  have hall : (c.blocks.all fun b => b.entries.all fun e => e.2.fits) = true ↔ ¬ c.Oversized := by
    simpa only [List.all_eq_true] using h.fits_iff
  rw [write?, Toml.write?]
  split
  · rename_i hfits
    simpa using hall.1 hfits
  · rename_i hfits
    simpa using not_not.1 (mt hall.2 hfits)

end Config

end CodeSurvey
