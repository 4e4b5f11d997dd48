import TemplateGuard.CommandLine.Run
import TemplateGuard.Proofs.PlaceholderFile
import Mathlib.Data.List.Permutation

namespace TemplateGuard

namespace CommandLine

open PlaceholderFile

open Json (Data)

/-- Every fault of a result is one that the command line reports. -/
def Reported {α : Type} (x : Except Fault α) : Prop := ∀ f, x = .error f → isReported f = true

section

variable {α β : Type}

theorem reported_ok (a : α) : Reported (Except.ok a) := by
  intro f h
  simp at h

theorem reported_error {f : Fault} (h : isReported f = true) :
    Reported (Except.error f : Except Fault α) := by
  intro g hg
  obtain rfl := Except.error.inj hg
  exact h

theorem reported_bind {x : Except Fault α} {k : α → Except Fault β} (hx : Reported x)
    (hk : ∀ a, Reported (k a)) : Reported (x >>= k) := by
  cases x with
  | error f => exact reported_error (hx f rfl)
  | ok a => exact hk a

theorem reported_mapM {k : α → Except Fault β} (hk : ∀ a, Reported (k a)) (as : List α) :
    Reported (as.mapM k) := by
  induction as with
  | nil => exact reported_ok []
  | cons a as ih =>
    rw [List.mapM_cons]
    exact reported_bind (hk a) fun b => reported_bind ih fun bs => reported_ok (b :: bs)

theorem reported_foldlM {k : β → α → Except Fault β} (hk : ∀ b a, Reported (k b a)) (as : List α)
    (b : β) : Reported (as.foldlM k b) := by
  induction as generalizing b with
  | nil => exact reported_ok b
  | cons a as ih =>
    rw [List.foldlM_cons]
    exact reported_bind (hk b a) ih

end

theorem reported_dataItem (d : Data) (name : String) : Reported (d.item name) := by
  unfold Data.item
  split
  · split
    · exact reported_ok _
    · exact reported_error rfl
  · exact reported_error rfl
  · exact reported_error rfl
  · exact reported_error rfl

theorem reported_elements (d : Data) : Reported d.elements := by
  unfold Data.elements
  split
  case h_4 => exact reported_error rfl
  all_goals exact reported_ok _

theorem reported_size (d : Data) : Reported d.size := by
  unfold Data.size
  split
  case h_4 => exact reported_error rfl
  all_goals exact reported_ok _

theorem reported_expand (t : LooseText) (i : Item) : Reported (i.expand t) := by
  unfold Item.expand
  split
  · split
    · split
      · exact reported_ok _
      · exact reported_error rfl
      · exact reported_error rfl
    · exact reported_ok t
  · exact reported_error rfl

theorem reported_item (d : Data) : Reported (item d) := by
  unfold item
  apply reported_bind (reported_dataItem d "key")
  intro key
  apply reported_bind (reported_dataItem d "original")
  intro covered
  exact reported_ok _

theorem reported_items (data : Data) : Reported (items data) := by
  have hread : ∀ d : Data, Reported (d.elements >>= fun ds => ds.mapM item) := fun d =>
    reported_bind (reported_elements d) (reported_mapM reported_item)
  unfold items
  split
  · exact reported_bind (reported_dataItem _ _) hread
  · exact hread _

/-- Every fault of restoring from a file is reported, whatever the file holds. -/
theorem reported_apply (data : Data) (t : Text) : Reported (apply data t) := by
  have hsized : ∀ is, Reported (sized is) := by
    apply reported_mapM
    intro i
    cases hn : i.key.size with
    | error f => exact reported_error (reported_size i.key f hn)
    | ok n => exact reported_ok (n, i)
  apply reported_bind (reported_items data)
  intro is
  apply reported_bind (hsized is)
  intro all
  apply reported_foldlM
  intro u p
  exact reported_expand u p.2

theorem printed_eq_ok_iff (t : LooseText) (u : Text) : printed t = .ok u ↔ t = .ofText u := by
  rw [printed, ← LooseText.encode_eq_ok_iff]
  cases t.encode <;> simp [Except.mapError]

theorem printed_half (t : Text) (unit : Nat) (rest : LooseText) :
    printed (LooseText.ofText t ++ .half unit :: rest) =
      .error (.unwritable ⟨t.length, unit, (rest.takeWhile Letter.isHalf).length⟩) := by
  rw [printed, LooseText.encode_half]
  rfl

theorem reported_printed (t : LooseText) : Reported (printed t) := by
  unfold printed
  cases t.encode with
  | error e => exact reported_error rfl
  | ok u => exact reported_ok u

/-- How a run ends that prints a text. -/
def accepted (u : Text) : Result := { ending := .exit 0, output := u }

/-- How a run ends that reports a fault: nothing is printed but the fault's message. -/
def rejected (f : Fault) : Result :=
  { ending := .exit 1, complaint := program ++ ": " ++ f.message ++ "\n" }

theorem accepted_injective {u v : Text} (h : accepted u = accepted v) : u = v :=
  congrArg Result.output h

theorem accepted_ne_rejected (u : Text) (f : Fault) : accepted u ≠ rejected f := by
  intro h
  simpa [accepted, rejected] using congrArg Result.ending h

theorem conclude_ok (verbose : Bool) (u : Text) : conclude verbose (.ok u) [] = accepted u := rfl

theorem conclude_error (verbose : Bool) {f : Fault} (h : isReported f = true) :
    conclude verbose (.error f) [] = rejected f := by
  have hempty : ("" : String) ++ program = program := rfl
  simp [conclude, rejected, h, hempty]

section

variable {m : Type → Type} [Monad m] [LawfulMonad m] (s : Surroundings m)
  {arguments : List String} {config : Option Text} {verbose : Bool} {path content : Text}
  {data : Data}

theorem run_restore (hp : parse arguments = .ok ⟨config, verbose, .restore (some path)⟩)
    (hc : (s.entry path).text path = .ok content) (hd : Json.read content = .ok data) :
    run s arguments = pure (conclude verbose (apply data s.input >>= printed) []) := by
  have hf : restoreFrom path (s.entry path) s.input = apply data s.input >>= printed := by
    rw [restoreFrom, hc]
    simp only [bind, Except.bind, hd]
  simp [run, hp, execute, hf]

theorem apply_bind_printed_eq_ok_iff (data : Data) (t u : Text) :
    (apply data t >>= printed) = .ok u ↔ apply data t = .ok (.ofText u) := by
  cases hr : apply data t with
  | error f => simp [bind, Except.bind]
  | ok v => simp [bind, Except.bind, printed_eq_ok_iff]

/-- Restoring from a file that holds JSON. A well-formed file is accepted, and its entries are
expanded; only a text in which they leave a half alone cannot be printed. In general a file is
accepted if it has entries with texts for their keys, if those entries have a text to put in whose
keys are found in their turn, and if the text can be printed; what else is in an entry's place is
not looked at. A file that is not accepted is reported, and nothing is printed. -/
theorem run_restore_accepts_iff
    (hp : parse arguments = .ok ⟨config, verbose, .restore (some path)⟩)
    (hc : (s.entry path).text path = .ok content) (hd : Json.read content = .ok data) :
    ∃ r : Result, run s arguments = pure r ∧
      (∀ ls, WellFormed data ls →
        (∀ u, restored (.ofText s.input) ls = .ofText u → r = accepted u) ∧
        (∀ (t : Text) unit rest,
          restored (.ofText s.input) ls = LooseText.ofText t ++ .half unit :: rest →
          r = rejected
            (.unwritable ⟨t.length, unit, (rest.takeWhile Letter.isHalf).length⟩))) ∧
      (∀ ps, WellFormed data (ps.map .ofPlaceholder) →
        r = accepted (TemplateGuard.restore s.input ps)) ∧
      (∀ u, r = accepted u ↔ ∃ ls, HasEntries data ls ∧
        (∀ l ∈ restoreSought (.ofText s.input) ls, l.HasText) ∧
        restored (.ofText s.input) ls = .ofText u) ∧
      ((∃ u, r = accepted u) ∨ ∃ f, r = rejected f) := by
  have hreported : Reported (apply data s.input >>= printed) :=
    reported_bind (reported_apply data s.input) reported_printed
  have hwell : ∀ ls, WellFormed data ls → ∀ u, restored (.ofText s.input) ls = .ofText u →
      conclude verbose (apply data s.input >>= printed) [] = accepted u := by
    intro ls hls u hu
    have ha : apply data s.input = .ok (.ofText u) := by rw [apply_of_wellFormed hls, hu]
    rw [(apply_bind_printed_eq_ok_iff data s.input u).mpr ha, conclude_ok]
  refine ⟨_, run_restore s hp hc hd, ?_, ?_, ?_, ?_⟩
  · intro ls hls
    refine ⟨hwell ls hls, ?_⟩
    intro t unit rest ht
    rw [apply_of_wellFormed hls, ht]
    have hf := printed_half t unit rest
    simp only [bind, Except.bind]
    rw [hf, conclude_error verbose rfl]
  · intro ps hps
    exact hwell _ hps _ (restored_ofPlaceholder s.input ps)
  · intro u
    rw [← apply_eq_ok_iff, ← apply_bind_printed_eq_ok_iff]
    cases hr : apply data s.input >>= printed with
    | ok v =>
      rw [conclude_ok, Except.ok.injEq]
      exact ⟨accepted_injective, congrArg accepted⟩
    | error f =>
      rw [conclude_error verbose (hreported f hr)]
      constructor
      · intro h
        exact absurd h.symm (accepted_ne_rejected u f)
      · intro h
        simp at h
  · cases hr : apply data s.input >>= printed with
    | ok v => exact .inl ⟨v, conclude_ok verbose v⟩
    | error f => exact .inr ⟨f, conclude_error verbose (hreported f hr)⟩

end

/-- A system without programs, with one file under all paths. -/
def oneFile (content input : Text) : Surroundings Id where
  entry _ := .file content
  input := input
  host := ⟨fun _ => pure (.ok none), fun _ => pure (.ok .timedOut)⟩

def restoreArguments : List String := ["restore", "--placeholders", "p.json"]

theorem parse_restoreArguments :
    parse restoreArguments = .ok ⟨none, false, .restore (some "p.json".toList)⟩ := by
  decide +kernel

/-- What masking prints for two tags, and a member of the second that is not looked at. -/
def maskedFile : Text :=
  ("\x7b\"text\": \"k0 = k1\", \"placeholders\": [" ++
    "\x7b\"key\": \"k0\", \"original\": \"\x7b\x7b a \x7d\x7d\"\x7d, " ++
    "\x7b\"kind\": \"\\ud83d\", \"original\": \"\x7b\x7b b \x7d\x7d\", " ++
    "\"key\": \"k1\"\x7d]\x7d").toList

def maskedData : Data :=
  .map [(.ofString "text", .str (.ofString "k0 = k1")), (.ofString "placeholders", .list
    [.map [(.ofString "key", .str (.ofString "k0")),
        (.ofString "original", .str (.ofString "\x7b\x7b a \x7d\x7d"))],
      .map [(.ofString "kind", .str [.half 0xD83D]),
        (.ofString "original", .str (.ofString "\x7b\x7b b \x7d\x7d")),
        (.ofString "key", .str (.ofString "k1"))]])]

theorem read_maskedFile : Json.read maskedFile = .ok maskedData := by cbv

theorem run_restore_accepts_masked :
    ∃ r : Result, run (oneFile maskedFile "k1 (k0)".toList) restoreArguments = pure r ∧
      r = accepted "\x7b\x7b b \x7d\x7d (\x7b\x7b a \x7d\x7d)".toList := by
  have hc : Entry.text "p.json".toList (.file maskedFile) = .ok maskedFile := by decide +kernel
  obtain ⟨r, hr, -, hwell, -, -⟩ := run_restore_accepts_iff (oneFile maskedFile "k1 (k0)".toList)
    parse_restoreArguments hc read_maskedFile
  have hps : WellFormed maskedData ([⟨"k0".toList, "\x7b\x7b a \x7d\x7d".toList⟩,
      ⟨"k1".toList, "\x7b\x7b b \x7d\x7d".toList⟩].map .ofPlaceholder) := by
    refine ⟨⟨_, .inl ⟨_, rfl, rfl⟩, .cons ⟨_, rfl, rfl, rfl⟩ (.cons ⟨_, rfl, rfl, rfl⟩ .nil)⟩, ?_⟩
    exact List.forall_mem_map.mpr fun p _ => Listed.hasText_ofPlaceholder p
  refine ⟨r, hr, (hwell _ hps).trans (congrArg accepted ?_)⟩
  cbv

/-- A file with a number for the text of its entry. -/
def numberedFile : Text := "[\x7b\"key\": \"k\", \"original\": 5\x7d]".toList

def numberedData : Data :=
  .list [.map [(.ofString "key", .str (.ofString "k")), (.ofString "original", .int 5)]]

theorem read_numberedFile : Json.read numberedFile = .ok numberedData := by cbv

theorem not_wellFormed_numberedData (ls : List Listed) : ¬ WellFormed numberedData ls := by
  rintro ⟨⟨ds, ⟨ms, he, -⟩ | ⟨-, he⟩, hls⟩, htext⟩
  · simp [numberedData] at he
  · obtain rfl := Data.list.inj he
    cases hls with
    | cons hentry _ =>
      obtain ⟨ms, hms, -, horiginal⟩ := hentry
      obtain rfl := Data.map.inj hms
      obtain ⟨t, ht⟩ := htext _ List.mem_cons_self
      rw [ht] at horiginal
      have hfive : some (Data.int 5) = some (.str t) := horiginal
      simp at hfive

/-- The number is not looked at where its key does not occur, and the file is accepted. -/
theorem exists_ill_formed_accepted :
    ¬ ∀ (s : Surroundings Id) (arguments : List String) (config : Option Text) (verbose : Bool)
      (path content : Text) (data : Data),
      parse arguments = .ok ⟨config, verbose, .restore (some path)⟩ →
      (s.entry path).text path = .ok content → Json.read content = .ok data →
      ((∃ u, run s arguments = pure (accepted u)) ↔ ∃ ls, WellFormed data ls) := by
  intro h
  have hc : Entry.text "p.json".toList (.file numberedFile) = .ok numberedFile := by decide +kernel
  have ha : (apply numberedData "x".toList >>= printed) = .ok "x".toList := by cbv
  have hrun : run (oneFile numberedFile "x".toList) restoreArguments =
      pure (conclude false (apply numberedData "x".toList >>= printed) []) :=
    run_restore _ parse_restoreArguments hc read_numberedFile
  rw [ha, conclude_ok] at hrun
  obtain ⟨ls, hls⟩ := (h _ _ _ _ _ _ _ parse_restoreArguments hc read_numberedFile).mp ⟨_, hrun⟩
  exact not_wellFormed_numberedData ls hls

end CommandLine

end TemplateGuard
