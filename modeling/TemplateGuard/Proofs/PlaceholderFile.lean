import TemplateGuard.PlaceholderFile
import Mathlib.Data.List.Forall2
import Mathlib.Data.Set.List

namespace TemplateGuard

theorem exists_of_bind {ε α β : Type} {x : Except ε α} {f : α → Except ε β} {b : β}
    (h : x >>= f = .ok b) : ∃ a, x = .ok a ∧ f a = .ok b := by
  cases x with
  | error e => exact absurd h (by simp [bind, Except.bind])
  | ok a => exact ⟨a, rfl, h⟩

namespace PlaceholderFile

open Json (Data)

/-- An entry whose key is a text. -/
structure Listed where
  key : LooseText
  covered : Data

namespace Listed

def item (l : Listed) : Item := ⟨.str l.key, l.covered⟩

def HasText (l : Listed) : Prop := ∃ s, l.covered = .str s

/-- The text that an entry stands for; one without a text covers nothing. -/
def text (l : Listed) : LooseText :=
  match l.covered with
  | .str s => s
  | _ => []

/-- The text with every occurrence of the key replaced by the text that the entry stands for. -/
def expand (t : LooseText) (l : Listed) : LooseText :=
  if t.hasInfix l.key then t.replaceAll l.key l.text else t

def ofPlaceholder (p : Placeholder) : Listed := ⟨.ofText p.key, .str (.ofText p.covered)⟩

theorem hasText_ofPlaceholder (p : Placeholder) : (ofPlaceholder p).HasText := ⟨_, rfl⟩

theorem expand_ofPlaceholder (t : Text) (p : Placeholder) :
    (ofPlaceholder p).expand (.ofText t) = .ofText (p.expand t) := by
  rw [expand, Placeholder.expand]
  simp only [ofPlaceholder, text, LooseText.hasInfix_ofText, LooseText.replaceAll_ofText]
  split <;> rfl

end Listed

/-- Expands the entries one after the other, those with longer keys first and otherwise in the order
of the file. -/
def restored (t : LooseText) (ls : List Listed) : LooseText :=
  (ls.mergeSort fun a b => decide (b.key.length ≤ a.key.length)).foldl
    (fun text l => l.expand text) t

/-- A map with a text for its key and with any data for its text. -/
def IsEntry (d : Data) (l : Listed) : Prop :=
  ∃ ms, d = .map ms ∧ Table.find? ms (.ofString "key") = some (.str l.key) ∧
    Table.find? ms (.ofString "original") = some l.covered

/-- Where the entries of a file are: under their name in a map, or in the whole of anything else. -/
def Holds (data d : Data) : Prop :=
  (∃ ms, data = .map ms ∧ Table.find? ms (.ofString "placeholders") = some d) ∨
    ((∀ ms, data ≠ .map ms) ∧ d = data)

/-- The entries of a list. An empty string and an empty map can be run through as well, and have
none. -/
def Lists (d : Data) (ls : List Listed) : Prop :=
  (∃ ds, d = .list ds ∧ List.Forall₂ IsEntry ds ls) ∨ ((d = .str [] ∨ d = .map []) ∧ ls = [])

/-- The entries of a file. -/
def HasEntries (data : Data) (ls : List Listed) : Prop := ∃ d, Holds data d ∧ Lists d ls

/-- A file of placeholders as masking writes it: a list of maps, each with a key and a text, alone or
as a member of a map. -/
def WellFormed (data : Data) (ls : List Listed) : Prop :=
  (∃ ds, Holds data (.list ds) ∧ List.Forall₂ IsEntry ds ls) ∧ ∀ l ∈ ls, l.HasText

/-- The entries whose keys are there when their turn comes. -/
def sought (t : LooseText) : List Listed → List Listed
  | [] => []
  | l :: ls => if t.hasInfix l.key then l :: sought (l.expand t) ls else sought t ls

/-- The entries that restoring a text asks for their texts. -/
def restoreSought (t : LooseText) (ls : List Listed) : List Listed :=
  sought t (ls.mergeSort fun a b => decide (b.key.length ≤ a.key.length))

theorem mem_of_mem_sought {t : LooseText} {ls : List Listed} {l : Listed} (h : l ∈ sought t ls) :
    l ∈ ls := by
  induction ls generalizing t with
  | nil => simp [sought] at h
  | cons a ls ih =>
    rw [sought] at h
    split at h
    · rcases List.mem_cons.mp h with rfl | h
      · exact List.mem_cons_self
      · exact List.mem_cons_of_mem a (ih h)
    · exact List.mem_cons_of_mem a (ih h)

theorem mem_of_mem_restoreSought {t : LooseText} {ls : List Listed} {l : Listed}
    (h : l ∈ restoreSought t ls) : l ∈ ls :=
  List.mem_mergeSort.mp (mem_of_mem_sought h)

theorem foldl_expand_ofPlaceholder (t : Text) (ps : List Placeholder) :
    (ps.map Listed.ofPlaceholder).foldl (fun text l => l.expand text) (.ofText t) =
      .ofText (ps.foldl Placeholder.expand t) := by
  induction ps generalizing t with
  | nil => rfl
  | cons p ps ih =>
    rw [List.map_cons, List.foldl_cons, List.foldl_cons, Listed.expand_ofPlaceholder, ih]

/-- Where no half stands alone, the entries are expanded as the placeholders that they spell. -/
theorem restored_ofPlaceholder (t : Text) (ps : List Placeholder) :
    restored (.ofText t) (ps.map Listed.ofPlaceholder) = .ofText (TemplateGuard.restore t ps) := by
  have hsort : (ps.map Listed.ofPlaceholder).mergeSort
        (fun a b => decide (b.key.length ≤ a.key.length)) =
      (ps.mergeSort fun a b => decide (b.key.length ≤ a.key.length)).map Listed.ofPlaceholder := by
    symm
    apply List.map_mergeSort
    intro a _ b _
    simp [Listed.ofPlaceholder]
  rw [restored, hsort, foldl_expand_ofPlaceholder, TemplateGuard.restore]

theorem expand_item_of_hasInfix {t : LooseText} {l : Listed} (h : t.hasInfix l.key = true)
    (u : LooseText) : l.item.expand t = .ok u ↔ l.HasText ∧ l.expand t = u := by
  obtain ⟨key, covered⟩ := l
  replace h : t.hasInfix key = true := h
  cases covered <;> simp [Item.expand, Listed.item, Listed.HasText, Listed.expand, Listed.text, h]

theorem expand_item_of_not_hasInfix {t : LooseText} {l : Listed} (h : t.hasInfix l.key = false) :
    l.item.expand t = .ok t ∧ l.expand t = t := by
  constructor
  · simp [Item.expand, Listed.item, h]
  · simp [Listed.expand, h]

/-- Only a text can be looked for, so an item that was expanded has one for its key. -/
theorem exists_item_eq_of_expand {i : Item} {t u : LooseText} (h : i.expand t = .ok u) :
    ∃ l : Listed, l.item = i := by
  obtain ⟨key, covered⟩ := i
  cases key with
  | str s => exact ⟨⟨s, covered⟩, rfl⟩
  | _ => simp [Item.expand] at h

theorem exists_item_eq_of_foldlM {ps : List (Nat × Item)} {t u : LooseText}
    (h : ps.foldlM (fun text e => e.2.expand text) t = Except.ok u) :
    ∀ p ∈ ps, ∃ l : Listed, l.item = p.2 := by
  induction ps generalizing t with
  | nil => simp
  | cons p ps ih =>
    rw [List.foldlM_cons] at h
    obtain ⟨t', ht', h⟩ := exists_of_bind h
    exact List.forall_mem_cons.mpr ⟨exists_item_eq_of_expand ht', ih h⟩

/-- Expanding the items in their order succeeds if those whose keys are found have texts, and gives
what expanding the entries gives. -/
theorem foldlM_expand_item (ls : List Listed) (t u : LooseText) :
    ls.foldlM (fun text l => l.item.expand text) t = Except.ok u ↔
      (∀ l ∈ sought t ls, l.HasText) ∧ ls.foldl (fun text l => l.expand text) t = u := by
  induction ls generalizing t with
  | nil => simp [sought, pure, Except.pure]
  | cons l ls ih =>
    rw [List.foldlM_cons, sought, List.foldl_cons]
    cases hk : t.hasInfix l.key with
    | false =>
      obtain ⟨hi, hp⟩ := expand_item_of_not_hasInfix hk
      rw [hi, hp]
      exact ih t
    | true =>
      rw [if_pos rfl, List.forall_mem_cons]
      constructor
      · intro h
        obtain ⟨t', ht', h⟩ := exists_of_bind h
        obtain ⟨htext, rfl⟩ := (expand_item_of_hasInfix hk t').mp ht'
        obtain ⟨hall, hu⟩ := (ih _).mp h
        exact ⟨⟨htext, hall⟩, hu⟩
      · rintro ⟨⟨htext, hall⟩, hu⟩
        rw [(expand_item_of_hasInfix hk _).mpr ⟨htext, rfl⟩]
        exact (ih _).mpr ⟨hall, hu⟩

theorem sized_item (ls : List Listed) :
    sized (ls.map Listed.item) = .ok (ls.map fun l => (l.key.length, l.item)) := by
  induction ls with
  | nil => rfl
  | cons l ls ih =>
    unfold sized at ih ⊢
    rw [List.map_cons, List.mapM_cons, ih]
    rfl

theorem map_snd_of_sized {is : List Item} {all : List (Nat × Item)} (h : sized is = .ok all) :
    all.map Prod.snd = is := by
  unfold sized at h
  induction is generalizing all with
  | nil =>
    obtain rfl : [] = all := Except.ok.inj h
    rfl
  | cons i is ih =>
    rw [List.mapM_cons] at h
    obtain ⟨p, hp, h⟩ := exists_of_bind h
    obtain ⟨rest, hrest, h⟩ := exists_of_bind h
    obtain rfl : p :: rest = all := Except.ok.inj h
    rw [List.map_cons, ih hrest]
    cases hn : i.key.size with
    | error f => simp [hn, Except.map] at hp
    | ok n =>
      obtain rfl : (n, i) = p := by simpa [hn, Except.map] using hp
      rfl

/-- Restoring succeeds only for items whose keys are texts. -/
theorem exists_listed_of_restore {t u : LooseText} {is : List Item} (h : restore t is = .ok u) :
    ∃ ls : List Listed, is = ls.map Listed.item := by
  unfold restore at h
  obtain ⟨all, hall, h⟩ := exists_of_bind h
  have hkeys := exists_item_eq_of_foldlM h
  have hmem : is ∈ Set.range (List.map Listed.item) := by
    rw [Set.range_list_map]
    intro i hi
    rw [← map_snd_of_sized hall] at hi
    obtain ⟨p, hp, rfl⟩ := List.mem_map.mp hi
    exact hkeys p (List.mem_mergeSort.mpr hp)
  obtain ⟨ls, hls⟩ := hmem
  exact ⟨ls, hls.symm⟩

theorem restore_item (ls : List Listed) (t u : LooseText) :
    restore t (ls.map Listed.item) = .ok u ↔
      (∀ l ∈ restoreSought t ls, l.HasText) ∧ restored t ls = u := by
  have hitems : (ls.map fun l => (l.key.length, l.item)).mergeSort
        (fun a b => decide (b.1 ≤ a.1)) =
      (ls.mergeSort fun a b => decide (b.key.length ≤ a.key.length)).map
        fun l => (l.key.length, l.item) := by
    symm
    apply List.map_mergeSort
    intro _ _ _ _
    rfl
  rw [restore, sized_item]
  simp only [bind, Except.bind]
  rw [hitems, List.foldlM_map]
  exact foldlM_expand_item _ t u

theorem item_eq_ok_iff (d : Data) (l : Listed) : item d = .ok l.item ↔ IsEntry d l := by
  constructor
  · intro h
    obtain ⟨key, hkey, h⟩ := exists_of_bind h
    obtain ⟨covered, hcovered, h⟩ := exists_of_bind h
    obtain ⟨rfl, rfl⟩ := Item.mk.inj (Except.ok.inj h)
    cases d with
    | map ms =>
      refine ⟨ms, rfl, ?_, ?_⟩
      · cases hf : Table.find? ms (.ofString "key") with
        | none => simp [Data.item, hf] at hkey
        | some w => simpa [Data.item, hf] using hkey
      · cases hf : Table.find? ms (.ofString "original") with
        | none => simp [Data.item, hf] at hcovered
        | some w => simpa [Data.item, hf] using hcovered
    | _ => simp [Data.item] at hkey
  · rintro ⟨ms, rfl, hkey, hcovered⟩
    simp [item, Data.item, hkey, hcovered, bind, Except.bind, pure, Except.pure, Listed.item]

theorem mapM_item_eq_ok_iff (ds : List Data) (ls : List Listed) :
    ds.mapM item = .ok (ls.map Listed.item) ↔ List.Forall₂ IsEntry ds ls := by
  induction ds generalizing ls with
  | nil =>
    cases ls with
    | nil => simp [pure, Except.pure]
    | cons l ls => simp [pure, Except.pure]
  | cons d ds ih =>
    rw [List.mapM_cons]
    constructor
    · intro h
      obtain ⟨i, hi, h⟩ := exists_of_bind h
      obtain ⟨is, his, h⟩ := exists_of_bind h
      cases ls with
      | nil => simp [pure, Except.pure] at h
      | cons l ls =>
        obtain ⟨rfl, rfl⟩ := List.cons.inj (Except.ok.inj h)
        exact .cons ((item_eq_ok_iff d l).mp hi) ((ih ls).mp his)
    · intro h
      cases h with
      | cons hd hds =>
        rw [(item_eq_ok_iff d _).mpr hd, (ih _).mpr hds]
        rfl

/-- Texts have no items, so where all elements are texts there must be none of them. -/
theorem mapM_item_map_str {α : Type} (f : α → LooseText) (as : List α) (ls : List Listed) :
    (as.map fun a => Data.str (f a)).mapM item = .ok (ls.map Listed.item) ↔ as = [] ∧ ls = [] := by
  rw [mapM_item_eq_ok_iff]
  cases as with
  | nil => simp
  | cons a as =>
    refine iff_of_false ?_ (by simp)
    intro h
    cases h with
    | cons hd _ =>
      obtain ⟨ms, he, -⟩ := hd
      exact Data.noConfusion he

/-- Lists, strings and maps can be run through, and the last two have only texts for elements. -/
theorem elements_bind_eq_ok_iff (d : Data) (ls : List Listed) :
    (d.elements >>= fun ds => ds.mapM item) = .ok (ls.map Listed.item) ↔ Lists d ls := by
  cases d with
  | list ds => simp [Data.elements, Lists, bind, Except.bind, mapM_item_eq_ok_iff]
  | str s =>
    have hs := mapM_item_map_str (fun l => [l]) s ls
    simpa [Data.elements, Lists, bind, Except.bind] using hs
  | map ms =>
    have hm := mapM_item_map_str Prod.fst ms ls
    simpa [Data.elements, Lists, bind, Except.bind] using hm
  | _ => simp [Data.elements, Lists, bind, Except.bind]

theorem items_of_find? {ms : List (LooseText × Data)} {d : Data}
    (h : Table.find? ms (.ofString "placeholders") = some d) :
    items (.map ms) = d.elements >>= fun ds => ds.mapM item := by
  simp [items, Data.item, h, bind, Except.bind]

theorem items_of_ne_map {data : Data} (h : ∀ ms, data ≠ .map ms) :
    items data = data.elements >>= fun ds => ds.mapM item := by
  unfold items
  split
  · next ms => exact absurd rfl (h ms)
  · rfl

/-- The entries of a file are read exactly if it has entries of the right kind. -/
theorem items_eq_ok_iff (data : Data) (ls : List Listed) :
    items data = .ok (ls.map Listed.item) ↔ HasEntries data ls := by
  by_cases hm : ∃ ms, data = .map ms
  · obtain ⟨ms, rfl⟩ := hm
    cases hf : Table.find? ms (.ofString "placeholders") with
    | none => simp [items, Data.item, HasEntries, Holds, hf, bind, Except.bind]
    | some d =>
      rw [items_of_find? hf, elements_bind_eq_ok_iff]
      simp [HasEntries, Holds, hf]
  · rw [not_exists] at hm
    rw [items_of_ne_map hm, elements_bind_eq_ok_iff]
    constructor
    · intro h
      exact ⟨data, .inr ⟨hm, rfl⟩, h⟩
    · rintro ⟨d, ⟨ms, he, -⟩ | ⟨-, rfl⟩, h⟩
      · exact absurd he (hm ms)
      · exact h

/-- Restoring from a file succeeds exactly if the file has entries, each with a text for its key, and
those entries that are found in their turn have a text to put in. -/
theorem apply_eq_ok_iff (data : Data) (t : Text) (u : LooseText) :
    apply data t = .ok u ↔ ∃ ls, HasEntries data ls ∧
      (∀ l ∈ restoreSought (.ofText t) ls, l.HasText) ∧ restored (.ofText t) ls = u := by
  constructor
  · intro h
    obtain ⟨is, his, h⟩ := exists_of_bind h
    obtain ⟨ls, rfl⟩ := exists_listed_of_restore h
    exact ⟨ls, (items_eq_ok_iff data ls).mp his, (restore_item ls _ u).mp h⟩
  · rintro ⟨ls, hls, h⟩
    rw [apply, (items_eq_ok_iff data ls).mpr hls]
    exact (restore_item ls _ u).mpr h

/-- What masking has written is accepted, and its entries are expanded. -/
theorem apply_of_wellFormed {data : Data} {ls : List Listed} (h : WellFormed data ls) (t : Text) :
    apply data t = .ok (restored (.ofText t) ls) := by
  obtain ⟨⟨ds, hds, hls⟩, htext⟩ := h
  have hentries : HasEntries data ls := ⟨.list ds, hds, .inl ⟨ds, rfl, hls⟩⟩
  refine (apply_eq_ok_iff data t _).mpr ⟨ls, hentries, ?_, rfl⟩
  intro l hl
  exact htext l (mem_of_mem_restoreSought hl)

end PlaceholderFile

end TemplateGuard
