import TemplateGuard.Format.External

namespace TemplateGuard

namespace External

/-- What the system answers when it is asked for a program by name. -/
abbrev Directory := String → Except Failure (Option String)

/-- The command for a name, as a look-up without a cache finds it: the path of the program itself,
else the package runner told not to install it. -/
def found (look : Directory) (name : String) : Except Failure (List Value) := do
  if let some path ← look name then return [.str path]
  if let some path ← look "npx" then return [.str path, .str "--no-install", .str name]
  throw ⟨"FormatterError", quoted name ++ " not found on PATH (and no npx)"⟩

/-- What a successful look-up leaves in the cache. -/
def kept (look : Directory) (name : String) : Cache :=
  (found look name).toOption.map fun c => (.str name, c)

/-- What the cache holds after look-ups: what the last successful one has left. -/
def held (look : Directory) (names : List String) : Cache := (names.filterMap (kept look)).getLast?

theorem kept_of_ok {look : Directory} {name : String} {c : List Value}
    (h : found look name = .ok c) : kept look name = some (.str name, c) := by
  rw [kept, h]
  rfl

theorem kept_of_error {look : Directory} {name : String} {f : Failure}
    (h : found look name = .error f) : kept look name = none := by
  rw [kept, h]
  rfl

theorem held_append (look : Directory) (names : List String) (name : String) :
    held look (names ++ [name]) = (kept look name).or (held look names) := by
  rw [held, List.filterMap_append, List.getLast?_append]
  cases hk : kept look name with
  | none => simp [hk, held]
  | some entry => simp [hk]

theorem held_append_of_ok {look : Directory} {name : String} {c : List Value}
    (h : found look name = .ok c) (names : List String) :
    held look (names ++ [name]) = some (.str name, c) := by
  rw [held_append, kept_of_ok h]
  rfl

theorem held_append_of_error {look : Directory} {name : String} {f : Failure}
    (h : found look name = .error f) (names : List String) :
    held look (names ++ [name]) = held look names := by
  rw [held_append, kept_of_error h]
  rfl

/-- The name and the command in the cache belong together. -/
theorem found_of_held {look : Directory} {names : List String} {v : Value} {c : List Value}
    (h : held look names = some (v, c)) : ∃ name, v = .str name ∧ found look name = .ok c := by
  obtain ⟨name, -, hn⟩ := List.mem_filterMap.mp (List.mem_of_getLast? h)
  cases hf : found look name with
  | error f => simp [kept_of_error hf] at hn
  | ok d =>
    rw [kept_of_ok hf] at hn
    obtain ⟨rfl, rfl⟩ := Prod.mk.inj (Option.some.inj hn)
    exact ⟨name, rfl, hf⟩

variable {m : Type → Type} [Monad m]

/-- Asks for the commands of several names, each time with the cache that the time before left. -/
def commands (host : Host m) : Cache → List String →
    m (List (Except Failure (List Value)) × Cache)
  | cache, [] => return ([], cache)
  | cache, name :: names => do
    let (answer, cache) ← command host cache (.str name)
    let (answers, cache) ← commands host cache names
    return (answer :: answers, cache)

theorem command_of_hit (host : Host m) {name v : Value} (c : List Value) (h : (name == v) = true) :
    command host (some (name, c)) v = pure (.ok c, some (name, c)) := by
  simp only [command]
  rw [if_pos h]

theorem command_of_miss (host : Host m) {cache : Cache} {v : Value}
    (h : ∀ name c, cache = some (name, c) → (name == v) = false) :
    command host cache v = resolve host v >>= fun r => pure (r, match r with
      | .error _ => cache
      | .ok c => some (v, c)) := by
  have hlook : ∀ r : Except Failure (List Value), (match r with
      | .error f => pure (.error f, cache)
      | .ok c => pure (.ok c, some (v, c)) : m (Except Failure (List Value) × Cache)) =
      pure (r, match r with
        | .error _ => cache
        | .ok c => some (v, c)) := by
    intro r
    cases r <;> rfl
  unfold command
  split
  · exact bind_congr hlook
  · next name c =>
    rw [h name c rfl]
    exact bind_congr hlook

section

variable [LawfulMonad m] {host : Host m} {look : Directory}

theorem resolve_eq (h : ∀ name, host.which (.str name) = pure (look name)) (name : String) :
    resolve host (.str name) = pure (found look name) := by
  unfold resolve found
  rw [h, pure_bind]
  cases look name with
  | error f => rfl
  | ok path? =>
    cases path? with
    | some path => rfl
    | none =>
      simp only [runner, h, pure_bind]
      cases look "npx" with
      | error f => rfl
      | ok path? => cases path? <;> rfl

/-- One call: its answer is that of a look-up without a cache, and the cache is kept up. -/
theorem command_held (h : ∀ name, host.which (.str name) = pure (look name)) (names : List String)
    (name : String) :
    command host (held look names) (.str name) =
      pure (found look name, held look (names ++ [name])) := by
  by_cases hhit : ∃ c, held look names = some (.str name, c)
  · obtain ⟨c, hc⟩ := hhit
    obtain ⟨other, he, hf⟩ := found_of_held hc
    obtain rfl := Value.str.inj he
    rw [hc, command_of_hit host c (by simp [Value.str_beq_str]), hf, held_append_of_ok hf]
  · have hmiss : ∀ v c, held look names = some (v, c) → (v == Value.str name) = false := by
      intro v c hc
      obtain ⟨other, rfl, -⟩ := found_of_held hc
      rw [Value.str_beq_str, beq_eq_false_iff_ne]
      rintro rfl
      exact hhit ⟨c, hc⟩
    rw [command_of_miss host hmiss, resolve_eq h, pure_bind]
    cases hf : found look name with
    | error f => rw [held_append_of_error hf]
    | ok c => rw [held_append_of_ok hf]

theorem commands_held (h : ∀ name, host.which (.str name) = pure (look name))
    (earlier names : List String) :
    commands host (held look earlier) names =
      pure (names.map (found look), held look (earlier ++ names)) := by
  induction names generalizing earlier with
  | nil => rw [commands, List.map_nil, List.append_nil]
  | cons name names ih =>
    rw [commands, command_held h, pure_bind]
    simp only [ih, pure_bind, List.map_cons, List.append_assoc, List.singleton_append]

/-- The cache is transparent. Whatever names are asked for one after the other, starting with an
empty cache, each answer is that of a look-up without a cache; and whatever was asked for before, a
call that fails leaves the cache as it was. -/
theorem commands_transparent (h : ∀ name, host.which (.str name) = pure (look name))
    (names : List String) :
    commands host none names = pure (names.map (found look), held look names) ∧
    ∀ name, ∃ cache, command host (held look names) (.str name) = pure (found look name, cache) ∧
      (∀ f, found look name = .error f → cache = held look names) ∧
      (∀ c, found look name = .ok c → cache = some (.str name, c)) := by
  refine ⟨commands_held h [] names, fun name => ⟨_, command_held h names name, ?_, ?_⟩⟩
  · intro f hf
    exact held_append_of_error hf names
  · intro c hc
    exact held_append_of_ok hc names

/-- So formatting does the same after any look-ups as with an empty cache. -/
theorem format_held (h : ∀ name, host.which (.str name) = pure (look name)) (names : List String)
    {o : Options} {name : String} (ho : o.executable = .str name) (t : Text) (parser : String) :
    Prod.fst <$> format host o (held look names) t parser =
      Prod.fst <$> format host o none t parser := by
  have hempty : command host none (.str name) = pure (found look name, held look [name]) :=
    command_held h [] name
  unfold format
  rw [ho, command_held h, hempty, pure_bind, pure_bind]
  cases found look name with
  | error f => simp only [map_pure]
  | ok c =>
    simp only [map_bind]
    apply bind_congr
    intro r
    cases r <;> simp only [map_pure]

end

/-- A system with programs under these names, which are not run. -/
def hostOf (paths : List (String × String)) : Host Id where
  which v := pure (.ok (Table.find? paths v.text))
  run _ := pure (.ok .timedOut)

/-- Names in turn, one of which no program is found for, without and with a package runner. -/
theorem commands_transparent_alternating :
    commands (hostOf [("a", "/bin/a"), ("b", "/bin/b")]) none ["a", "c", "a", "b"] =
      pure ([.ok [.str "/bin/a"],
          .error ⟨"FormatterError", "'c' not found on PATH (and no npx)"⟩,
          .ok [.str "/bin/a"], .ok [.str "/bin/b"]],
        some (.str "b", [.str "/bin/b"])) ∧
    commands (hostOf [("a", "/bin/a"), ("npx", "/bin/npx")]) none ["c", "a", "c"] =
      pure ([.ok [.str "/bin/npx", .str "--no-install", .str "c"], .ok [.str "/bin/a"],
          .ok [.str "/bin/npx", .str "--no-install", .str "c"]],
        some (.str "c", [.str "/bin/npx", .str "--no-install", .str "c"])) := by
  constructor
  · let look : Directory := fun name => .ok (Table.find? [("a", "/bin/a"), ("b", "/bin/b")] name)
    have hc : found look "c" = .error ⟨"FormatterError", "'c' not found on PATH (and no npx)"⟩ := by
      have hquoted : quoted "c" = "'c'" := by decide +kernel
      have hfailed : found look "c" =
          .error ⟨"FormatterError", quoted "c" ++ " not found on PATH (and no npx)"⟩ := rfl
      rw [hfailed, hquoted]
      rfl
    have ha : found look "a" = .ok [.str "/bin/a"] := rfl
    have hb : found look "b" = .ok [.str "/bin/b"] := rfl
    have hlook : ∀ name, (hostOf [("a", "/bin/a"), ("b", "/bin/b")]).which (.str name) =
        pure (look name) := fun _ => rfl
    rw [(commands_transparent hlook ["a", "c", "a", "b"]).1]
    simp [held, kept, ha, hb, hc, Except.toOption]
  · let look : Directory := fun name =>
      .ok (Table.find? [("a", "/bin/a"), ("npx", "/bin/npx")] name)
    have hc : found look "c" = .ok [.str "/bin/npx", .str "--no-install", .str "c"] := rfl
    have ha : found look "a" = .ok [.str "/bin/a"] := rfl
    have hlook : ∀ name, (hostOf [("a", "/bin/a"), ("npx", "/bin/npx")]).which (.str name) =
        pure (look name) := fun _ => rfl
    rw [(commands_transparent hlook ["c", "a", "c"]).1]
    simp [held, kept, ha, hc, Except.toOption]

end External

end TemplateGuard
