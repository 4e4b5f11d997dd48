import TemplateGuard.Config
import TemplateGuard.Proofs.Tables
import Mathlib.Data.List.Forall2
import Mathlib.Data.List.Nodup

namespace TemplateGuard

namespace Value

theorem beq_str_iff (v : Value) (s : String) : (v == .str s) = true ↔ v = .str s := by
  cases v <;> simp [BEq.beq, same, whole?]

theorem str_beq_iff (v : Value) (s : String) : (.str s == v) = true ↔ v = .str s := by
  cases v <;> simp [BEq.beq, same, whole?, eq_comm]

theorem sharp_str (s : String) : Table.Sharp (Value.str s) :=
  fun v => ⟨beq_str_iff v s, str_beq_iff v s⟩

end Value

namespace Settings

/-- Two spellings of one setting. -/
def Aliased (a b : String) : Prop := (a, b) ∈ aliases ∨ (b, a) ∈ aliases

/-- A map that holds settings at the top: no key is there twice, no setting has both its spellings,
and there is no section. -/
structure Flat (d : List (Value × Value)) : Prop where
  distinct : d.Pairwise fun p q => (p.1 == q.1) = false
  spelledOnce : ∀ p ∈ aliases,
    Table.find? d (.str p.1) = none ∨ Table.find? d (.str p.2) = none
  noSection : ∀ name ∈ sections, Table.find? d (.str name) = none

/-- The same entry, perhaps with the other spelling of its setting for its key. -/
def Respelled (p q : Value × Value) : Prop :=
  p.2 = q.2 ∧ (p.1 = q.1 ∨ ∃ a b, Aliased a b ∧ p.1 = .str a ∧ q.1 = .str b)

/-- The same entries in any order, some of them with the other spelling. -/
def Spells (d e : List (Value × Value)) : Prop :=
  ∃ mid, d.Perm mid ∧ List.Forall₂ Respelled mid e

/-- The entries with the settings' own names. -/
def named (d : List (Value × Value)) : List (Value × Value) := d.map fun (k, v) => (canonical k, v)

theorem canonical_eq_of_aliased {a b : String} (h : Aliased a b) :
    canonical (.str a) = canonical (.str b) := by
  have hall : ∀ p ∈ aliases,
      (Table.find? aliases p.1).getD p.1 = (Table.find? aliases p.2).getD p.2 := by decide
  rcases h with h | h
  · exact congrArg Value.str (hall _ h)
  · exact congrArg Value.str (hall _ h).symm

theorem aliased_of_canonical_eq {a b : String} (hne : a ≠ b)
    (h : canonical (.str a) = canonical (.str b)) : Aliased a b := by
  have hkeys : (Table.keys aliases).Nodup := by decide
  have hnames : (aliases.map Prod.snd).Nodup := by decide
  replace h := Value.str.inj h
  cases ha : Table.find? aliases a with
  | none =>
    cases hb : Table.find? aliases b with
    | none => exact absurd (by simpa [ha, hb] using h) hne
    | some n =>
      obtain rfl : a = n := by simpa [ha, hb] using h
      exact .inr ((Table.find?_eq_some_iff hkeys b a).mp hb)
  | some n =>
    have hn := (Table.find?_eq_some_iff hkeys a n).mp ha
    cases hb : Table.find? aliases b with
    | none =>
      obtain rfl : n = b := by simpa [ha, hb] using h
      exact .inl hn
    | some m =>
      obtain rfl : n = m := by simpa [ha, hb] using h
      have hm := (Table.find?_eq_some_iff hkeys b n).mp hb
      have hpair := List.inj_on_of_nodup_map hnames hn hm rfl
      exact absurd (Prod.mk.inj hpair).1 hne

theorem exists_str_of_canonical_eq {v : Value} {n : String} (h : canonical v = .str n) :
    ∃ s, v = .str s := by
  unfold canonical at h
  split at h
  · exact ⟨_, rfl⟩
  · exact ⟨n, h⟩

/-- A map that spells each setting at most once gives no name to two of its entries. -/
theorem Flat.once {d : List (Value × Value)} (hd : Flat d) (n : String) :
    Table.Once (.str n) (named d) := by
  refine List.pairwise_map.mpr (hd.distinct.imp_of_mem ?_)
  rintro ⟨a, v⟩ ⟨b, w⟩ hp hq hab ha hb
  obtain ⟨s, rfl⟩ := exists_str_of_canonical_eq ha
  obtain ⟨t, rfl⟩ := exists_str_of_canonical_eq hb
  have hst : s ≠ t := by
    rintro rfl
    simp [Value.str_beq_str] at hab
  have hs : Table.find? d (.str s) ≠ none := fun hn => by
    simpa [Value.str_beq_str] using Table.find?_eq_none_iff.mp hn _ hp
  have ht : Table.find? d (.str t) ≠ none := fun hn => by
    simpa [Value.str_beq_str] using Table.find?_eq_none_iff.mp hn _ hq
  rcases aliased_of_canonical_eq hst (ha.trans hb.symm) with h | h
  · exact (hd.spelledOnce _ h).elim hs ht
  · exact (hd.spelledOnce _ h).elim ht hs

theorem Respelled.named_eq {p q : Value × Value} (h : Respelled p q) :
    (canonical p.1, p.2) = (canonical q.1, q.2) := by
  obtain ⟨hvalue, hkeys⟩ := h
  have hkey : canonical p.1 = canonical q.1 := by
    rcases hkeys with hk | ⟨a, b, hab, hp, hq⟩
    · rw [hk]
    · rw [hp, hq]
      exact canonical_eq_of_aliased hab
  rw [hkey, hvalue]

theorem named_eq_of_respelled {d e : List (Value × Value)} (h : List.Forall₂ Respelled d e) :
    named d = named e := by
  have hnamed : List.Forall₂ (· = ·) (named d) (named e) := by
    rw [named, named, List.forall₂_map_left_iff, List.forall₂_map_right_iff]
    apply h.imp
    intro p q hpq
    exact hpq.named_eq
  rwa [List.forall₂_eq_eq_eq] at hnamed

theorem Spells.named_perm {d e : List (Value × Value)} (h : Spells d e) :
    (named d).Perm (named e) := by
  obtain ⟨mid, hperm, hre⟩ := h
  rw [← named_eq_of_respelled hre]
  exact hperm.map _

/-- A section's name is no spelling of a setting, so respelling makes no section. -/
theorem Spells.noSection {d e : List (Value × Value)} (h : Spells d e) {name : String}
    (hname : name ∈ sections) (hd : Table.find? d (.str name) = none) :
    Table.find? e (.str name) = none := by
  have hfixed : ∀ name ∈ sections, ∀ p ∈ aliases, name ≠ p.1 ∧ name ≠ p.2 := by decide
  obtain ⟨mid, hperm, hre⟩ := h
  rw [Table.find?_eq_none_iff] at hd ⊢
  have hmid : ∀ p ∈ mid, (p.1 == Value.str name) = false := fun p hp => hd p (hperm.mem_iff.mpr hp)
  clear hd hperm
  induction hre with
  | nil => simp
  | @cons p q mid e hpq _ ih =>
    obtain ⟨hp, hrest⟩ := List.forall_mem_cons.mp hmid
    refine List.forall_mem_cons.mpr ⟨?_, ih hrest⟩
    rcases hpq.2 with hk | ⟨a, b, hab, ha, hb⟩
    · rwa [← hk]
    · rw [hb, Value.str_beq_str, beq_eq_false_iff_ne]
      rcases hab with hab | hab
      · exact (hfixed name hname _ hab).2.symm
      · exact (hfixed name hname _ hab).1.symm

theorem orEmpty_map (es : List (Value × Value)) : orEmpty (.map es) = .map es := by
  cases es <;> rfl

theorem select_of_absent {es : List (Value × Value)} {name : String}
    (h : Table.find? es (.str name) = none) (names : List String) :
    select (.map es) (name :: names) = select (.map es) names := by
  simp [select, Value.has, h]

theorem select_of_present {es : List (Value × Value)} {name : String} {v : Value}
    (h : Table.find? es (.str name) = some v) (names : List String) :
    select (.map es) (name :: names) = .ok (orEmpty v) := by
  simp [select, Value.has, Value.item, h, Except.map]

/-- Settings are the same if the look-ups of all names are. -/
theorem ofValue_eq_of_find? {data data' : Value} {es es' : List (Value × Value)}
    (h : select (orEmpty data) sections = .ok (.map es))
    (h' : select (orEmpty data') sections = .ok (.map es'))
    (hfind : ∀ name : String, Table.find? (Table.ofPairs (named es)) (.str name) =
      Table.find? (Table.ofPairs (named es')) (.str name)) : ofValue data = ofValue data' := by
  have hfield : ∀ name default, field (Table.ofPairs (named es)) name default =
      field (Table.ofPairs (named es')) name default := by
    intro name default
    rw [field, field, hfind]
  unfold named at hfield
  simp only [ofValue, h, h', bind, Except.bind, Value.entries, hfield]

/-- How settings are spelled does not matter: neither the order of the entries, nor which spelling a
setting has, nor whether they stand at the top or in a section. If both sections are there, the
first is taken. -/
theorem ofValue_eq_of_spells {d e : List (Value × Value)} (hd : Flat d) (he : Spells d e) :
    ofValue (.map e) = ofValue (.map d) ∧
    (∀ outer, Table.find? outer (.str "tag_shield") = some (.map e) →
      ofValue (.map outer) = ofValue (.map d)) ∧
    (∀ outer, Table.find? outer (.str "tag_shield") = none →
      Table.find? outer (.str "djangoTemplateExtension") = some (.map e) →
      ofValue (.map outer) = ofValue (.map d)) := by
  have hflat : ∀ es : List (Value × Value), (∀ name ∈ sections, Table.find? es (.str name) = none) →
      select (orEmpty (.map es)) sections = .ok (.map es) := by
    intro es hes
    rw [orEmpty_map, sections, select_of_absent (hes _ (by decide)),
      select_of_absent (hes _ (by decide)), select]
  have hselect : select (orEmpty (.map d)) sections = .ok (.map d) := hflat d hd.noSection
  have hfind : ∀ name : String, Table.find? (Table.ofPairs (named e)) (.str name) =
      Table.find? (Table.ofPairs (named d)) (.str name) := fun name =>
    (Table.find?_ofPairs_perm (Value.sharp_str name) he.named_perm (hd.once name)).symm
  have key : ∀ data, select (orEmpty data) sections = .ok (.map e) →
      ofValue data = ofValue (.map d) := fun data h => ofValue_eq_of_find? h hselect hfind
  refine ⟨?top, ?first, ?second⟩
  case top =>
    exact key _ (hflat e fun name hname => he.noSection hname (hd.noSection name hname))
  case first =>
    intro outer h
    refine key _ ?_
    rw [orEmpty_map, sections, select_of_present h, orEmpty_map]
  case second =>
    intro outer hnone h
    refine key _ ?_
    rw [orEmpty_map, sections, select_of_absent hnone, select_of_present h, orEmpty_map]

/-- Settings that are refused are refused alike, whichever way they are spelled. -/
theorem ofValue_eq_of_spells_refused :
    let d : List (Value × Value) := [(.str "wrapDjangoTagsInComments", .int 0),
      (.str "prettier", .str "npx"), (.int 3, .null), (.str "enable_formatting", .str "no")]
    let e : List (Value × Value) := [(.str "prettier", .str "npx"),
      (.str "wrap_tags_in_comments", .int 0), (.int 3, .null), (.str "enableFormatting", .str "no")]
    Flat d ∧ Spells d e ∧
      ofValue (.map e) = .error (.noMember "str" "get") ∧
      ofValue (.map [(.str "djangoTemplateExtension", .null), (.str "tag_shield", .map e)]) =
        .error (.noMember "str" "get") ∧
      ofValue (.map [(.int 3, .null), (.str "djangoTemplateExtension", .map e)]) =
        .error (.noMember "str" "get") := by
  intro d e
  have hd : Flat d := ⟨by decide, by decide, by decide⟩
  have he : Spells d e := by
    refine ⟨_, .swap _ _ _, ?_⟩
    exact .cons ⟨rfl, .inl rfl⟩ (.cons ⟨rfl, .inr ⟨_, _, .inl (by decide), rfl, rfl⟩⟩
      (.cons ⟨rfl, .inl rfl⟩ (.cons ⟨rfl, .inr ⟨_, _, .inr (by decide), rfl, rfl⟩⟩ .nil)))
  have hrefused : ofValue (.map d) = .error (.noMember "str" "get") := rfl
  obtain ⟨htop, hfirst, hsecond⟩ := ofValue_eq_of_spells hd he
  exact ⟨hd, he, htop.trans hrefused, (hfirst _ rfl).trans hrefused,
    (hsecond _ rfl rfl).trans hrefused⟩

end Settings

end TemplateGuard
