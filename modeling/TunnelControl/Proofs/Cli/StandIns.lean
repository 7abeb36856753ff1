import Mathlib.Data.List.Basic
import TunnelControl.Cli.Grammar

/-!
# Variables that stand in for options

The words of a command line are read without the environment.  Only when they are used up do its variables stand in
for options that were not given.

* `CommandSpec.Plain`        a command without variables that stand in for anything;
* `readFrom_rel`             two environments are told apart only where the words end;
* `CommandSpec.Completed`    what was read of some words, before and behind the variables;
* `read_completed`           all that is read of a command line comes from its words alone, and then from the variables;
* `lookup_withVariables`     the value of a path that was not given is that of its variable.
-/

namespace TunnelControl

/-- no variable stands in for an option of the command or of its subcommands -/
inductive CommandSpec.Plain : CommandSpec → Prop
  | mk {options : List OptionSpec} {hasVersion : Bool} {subcommands : List (String × CommandSpec)}
      (hoptions : ∀ o ∈ options, o.standIn? = none) (hsubs : ∀ sub ∈ subcommands, Plain sub.2) :
      Plain (.mk options hasVersion subcommands)

namespace ArgScan

variable {env : Environment} {s t : ArgScan} {o : OptionSpec} {os : List OptionSpec} {word : Bytes} {name : String}

/-! ## one option -/

theorem lookup_filter_of_ne {α : Type} (hne : name ≠ o.name) (values : List (String × α)) :
    (values.filter (·.1 != o.name)).lookup name = values.lookup name := by
  induction values with
  | nil => rfl
  | cons entry values ih =>
    obtain ⟨key, value⟩ := entry
    by_cases hkey : key = o.name
    · subst hkey
      rw [List.filter_cons_of_neg (by simp), ih, List.lookup_cons, beq_eq_false_iff_ne.mpr hne]
    · rw [List.filter_cons_of_pos (by simp [hkey]), List.lookup_cons, List.lookup_cons, ih]

/-- what comes of an option that gets its value -/
theorem accept_eq_ok (h : s.accept o word = .ok t) :
    ∃ new, (if o.listed then splitWord word else [word]).mapM o.kind.read = .ok new ∧
      t = { s with
        values := s.values.filter (·.1 != o.name) ++ [(o.name, (s.values.lookup o.name).getD [] ++ new)] } := by
  unfold accept at h
  simp only at h
  split at h
  · cases h
  · cases hnew : (if o.listed then splitWord word else [word]).mapM o.kind.read with
    | error fault =>
      rw [hnew] at h
      cases h
    | ok new =>
      rw [hnew] at h
      cases h
      exact ⟨new, rfl, rfl⟩

theorem pending_accept (h : s.accept o word = .ok t) : t.pending = s.pending := by
  obtain ⟨new, -, rfl⟩ := accept_eq_ok h
  rfl

theorem lookup_accept_of_ne (h : s.accept o word = .ok t) (hne : name ≠ o.name) :
    t.values.lookup name = s.values.lookup name := by
  obtain ⟨new, -, rfl⟩ := accept_eq_ok h
  rw [List.lookup_append, lookup_filter_of_ne hne, List.lookup_cons, beq_eq_false_iff_ne.mpr hne]
  exact Option.or_none

/-- a path may be any bytes but none -/
theorem lookup_accept_path (h : s.accept o word = .ok t) (hkind : o.kind = .path) (hlisted : o.listed = false)
    (hnone : s.values.lookup o.name = none) : word ≠ [] ∧ t.values.lookup o.name = some [.path word] := by
  obtain ⟨new, hnew, rfl⟩ := accept_eq_ok h
  have hword : word ≠ [] := by
    rintro rfl
    rw [hkind, hlisted] at hnew
    cases hnew
  have hpath : ValueKind.path.read word = .ok (.path word) := if_neg (mt List.isEmpty_iff.mp hword)
  have hvalue : new = [.path word] := by
    rw [hkind, hlisted, if_neg Bool.false_ne_true, List.mapM_cons, hpath] at hnew
    cases hnew
    rfl
  have hfilter : (s.values.filter (·.1 != o.name)).lookup o.name = none := by
    rw [List.lookup_eq_none_iff]
    intro entry hentry
    have hkey : (entry.1 != o.name) = true := (List.mem_filter.mp hentry).2
    rw [bne_iff_ne] at hkey ⊢
    exact hkey.symm
  refine ⟨hword, ?_⟩
  rw [List.lookup_append, hfilter, hnone, hvalue, List.lookup_cons, beq_self_eq_true]
  rfl

/-! ## all variables -/

/-- the first option gets the value of its variable, if it was not given and the variable is set -/
theorem withVariables_cons_eq_ok (h : s.withVariables env (o :: os) = .ok t) :
    ∃ u, u.withVariables env os = .ok t ∧
      (u = s ∧ ((s.values.lookup o.name).isSome ∨ o.standIn?.bind env.bytes? = none) ∨
        s.values.lookup o.name = none ∧ ∃ word, o.standIn?.bind env.bytes? = some word ∧ s.accept o word = .ok u) := by
  unfold withVariables at h
  simp only at h
  cases hgiven : (s.values.lookup o.name).isSome with
  | true =>
    rw [hgiven] at h
    exact ⟨s, h, .inl ⟨rfl, .inl rfl⟩⟩
  | false =>
    rw [hgiven, if_neg Bool.false_ne_true] at h
    cases hword : o.standIn?.bind env.bytes? with
    | none =>
      rw [hword] at h
      exact ⟨s, h, .inl ⟨rfl, .inr rfl⟩⟩
    | some word =>
      rw [hword] at h
      cases haccept : s.accept o word with
      | error fault =>
        simp only [haccept] at h
        cases h
      | ok u =>
        simp only [haccept] at h
        exact ⟨u, h, .inr ⟨Option.isSome_eq_false_iff.mp hgiven |> Option.isNone_iff_eq_none.mp, word, rfl, haccept⟩⟩

theorem withVariables_of_plain (h : ∀ o ∈ os, o.standIn? = none) (env : Environment) (s : ArgScan) :
    s.withVariables env os = .ok s := by
  induction os with
  | nil => rfl
  | cons o os ih =>
    obtain ⟨ho, hos⟩ := List.forall_mem_cons.mp h
    unfold withVariables
    simp only [ho, Option.bind_none, ite_self]
    exact ih hos

theorem withVariables_nil (s : ArgScan) (os : List OptionSpec) : s.withVariables [] os = .ok s := by
  have hnone (o : OptionSpec) : o.standIn?.bind (Environment.bytes? []) = none := by cases o.standIn? <;> rfl
  induction os with
  | nil => rfl
  | cons o os ih =>
    unfold withVariables
    simp only [hnone, ite_self]
    exact ih

theorem pending_withVariables (h : s.withVariables env os = .ok t) : t.pending = s.pending := by
  induction os generalizing s with
  | nil =>
    cases h
    rfl
  | cons o os ih =>
    obtain ⟨u, hu, ⟨rfl, -⟩ | ⟨-, word, -, haccept⟩⟩ := withVariables_cons_eq_ok h
    · exact ih hu
    · rw [ih hu, pending_accept haccept]

/-- nothing stands in for an option that has no variable -/
theorem lookup_withVariables_of_ne (h : s.withVariables env os = .ok t)
    (hname : ∀ o ∈ os, o.standIn?.isSome → name ≠ o.name) : t.values.lookup name = s.values.lookup name := by
  induction os generalizing s with
  | nil =>
    cases h
    rfl
  | cons o os ih =>
    obtain ⟨ho, hos⟩ := List.forall_mem_cons.mp hname
    obtain ⟨u, hu, ⟨rfl, -⟩ | ⟨-, word, hword, haccept⟩⟩ := withVariables_cons_eq_ok h
    · exact ih hu hos
    · have hstand : o.standIn?.isSome := by
        cases hstand : o.standIn? with
        | none =>
          rw [hstand] at hword
          cases hword
        | some _ => rfl
      rw [ih hu hos, lookup_accept_of_ne haccept (ho hstand)]

/-- for a path that was not given its variable stands in, which may not be empty -/
theorem lookup_withVariables (h : s.withVariables env os = .ok t) (ho : o ∈ os) (hnames : (os.map OptionSpec.name).Nodup)
    (hkind : o.kind = .path) (hlisted : o.listed = false) (hnone : s.values.lookup o.name = none) :
    t.values.lookup o.name = (o.standIn?.bind env.bytes?).map (fun word => [.path word]) ∧
      o.standIn?.bind env.bytes? ≠ some [] := by
  induction os generalizing s with
  | nil => cases ho
  | cons p os ih =>
    obtain ⟨hp, hos⟩ := List.nodup_cons.mp hnames
    obtain ⟨u, hu, hcases⟩ := withVariables_cons_eq_ok h
    obtain rfl | ho := List.mem_cons.mp ho
    · have hlater : t.values.lookup o.name = u.values.lookup o.name :=
        lookup_withVariables_of_ne hu fun q hq _ heq => hp (heq ▸ List.mem_map_of_mem hq)
      obtain ⟨rfl, hgiven | hunset⟩ | ⟨-, word, hword, haccept⟩ := hcases
      · rw [hnone] at hgiven
        cases hgiven
      · rw [hlater, hnone, hunset]
        exact ⟨rfl, nofun⟩
      · obtain ⟨hne, hvalue⟩ := lookup_accept_path haccept hkind hlisted hnone
        rw [hlater, hvalue, hword]
        exact ⟨rfl, fun heq => hne (Option.some.inj heq)⟩
    · refine ih hu ho hos ?_
      obtain ⟨rfl, -⟩ | ⟨-, word, -, haccept⟩ := hcases
      · exact hnone
      · have hne : o.name ≠ p.name := fun heq => hp (heq ▸ List.mem_map_of_mem ho)
        rw [lookup_accept_of_ne haccept hne, hnone]

theorem pending_complete (h : s.complete = .ok t) : t.pending = none := by
  unfold complete at h
  split at h
  · rename_i hpending
    cases h
    exact hpending
  · cases h
  · exact pending_accept h

end ArgScan

/-! ## the words -/

namespace CommandSpec

variable {env env' : Environment} {c : CommandSpec}

/-- what a step gives is gone on with in two ways, which are told apart by their outcomes only -/
theorem rel_bind {α β γ : Type} {R : Except ArgFault β → Except ArgFault γ → Prop}
    (herror : ∀ fault, R (.error fault) (.error fault)) {f : α → Except ArgFault β} {g : α → Except ArgFault γ}
    (hnext : ∀ a, R (f a) (g a)) (step : Except ArgFault α) : R (step >>= f) (step >>= g) := by
  cases step with
  | error fault => exact herror fault
  | ok a => exact hnext a

/-- the environment makes no difference before the words of the command are used up -/
theorem readFrom_rel {R : Except ArgFault Matches → Except ArgFault Matches → Prop}
    (hconclude : ∀ (s : ArgScan) sub, R (s.conclude c env sub) (s.conclude c env' sub))
    (herror : ∀ fault, R (.error fault) (.error fault))
    (hsubs : ∀ sub ∈ c.subcommands, ∀ words, readFrom env sub.2 {} words = readFrom env' sub.2 {} words)
    (s : ArgScan) (words : List Bytes) : R (readFrom env c s words) (readFrom env' c s words) := by
  induction words generalizing s with
  | nil =>
    unfold readFrom
    exact hconclude s none
  | cons word words ih =>
    unfold readFrom
    split
    · rename_i name sub hsub
      have hmem : (name, sub) ∈ c.subcommands := by
        split at hsub
        · cases hsub
        · exact List.mem_of_find?_eq_some hsub
      rw [hsubs _ hmem]
      exact rel_bind herror (fun m => hconclude s (some (name, m))) _
    · split
      · exact herror _
      · split
        · cases words with
          | nil => exact hconclude s none
          | cons word words => exact herror _
        · exact rel_bind herror (fun s => ih s) _
        · exact rel_bind herror (fun s => ih s) _
        · split
          · exact ih _
          · exact herror _

/-- a plain command is read as if no variable were set -/
theorem Plain.readFrom_eq (h : c.Plain) (env : Environment) (s : ArgScan) (words : List Bytes) :
    readFrom env c s words = readFrom [] c s words := by
  induction h generalizing s words with
  | @mk options hasVersion subcommands hoptions hsubs ih =>
    have hplain (env : Environment) (s : ArgScan) :
        s.withVariables env (CommandSpec.mk options hasVersion subcommands).options = .ok s :=
      ArgScan.withVariables_of_plain hoptions env s
    refine readFrom_rel (fun s sub => ?_) (fun _ => rfl) ?_ s words
    · unfold ArgScan.conclude
      refine rel_bind (fun _ => rfl) (fun s => ?_) _
      rw [hplain, hplain]
    · intro sub hsub words
      exact ih sub hsub {} words

/-- what the words of a command say is completed by the variables -/
structure Completed (env : Environment) (c : CommandSpec) (bare m : Matches) : Prop where
  values : ArgScan.withVariables env { values := bare.values } c.options = .ok { values := m.values }
  subcommand : m.subcommand = bare.subcommand

theorem conclude_completed (hoptional : ∀ o ∈ c.options, o.required = false) {s : ArgScan}
    {sub : Option (String × Matches)} {m : Matches} (h : s.conclude c env sub = .ok m) :
    ∃ bare, s.conclude c [] sub = .ok bare ∧ Completed env c bare m := by
  have hrequired (t : ArgScan) : (c.options.any fun o => o.required && !(t.values.lookup o.name).isSome) = false := by
    rw [List.any_eq_false]
    intro o ho
    rw [hoptional o ho]
    exact Bool.false_ne_true
  unfold ArgScan.conclude at h ⊢
  cases hcomplete : s.complete with
  | error fault =>
    rw [hcomplete] at h
    cases h
  | ok t =>
    rw [hcomplete] at h
    simp only [bind, Except.bind, hrequired, Bool.false_eq_true, if_false, ArgScan.withVariables_nil] at h ⊢
    cases hvariables : t.withVariables env c.options with
    | error fault =>
      rw [hvariables] at h
      cases h
    | ok u =>
      rw [hvariables] at h
      simp only at h
      split at h
      · cases h
      · rename_i hsub
        cases h
        refine ⟨.mk t.values sub, if_neg hsub, ?_, rfl⟩
        have ht : t.pending = none := ArgScan.pending_complete hcomplete
        have hu : u.pending = none := (ArgScan.pending_withVariables hvariables).trans ht
        obtain ⟨values, _⟩ := t
        obtain ⟨values', _⟩ := u
        cases ht
        cases hu
        exact hvariables

/-- **Variables only complete a command line.**  Whatever is read of it is read of its words alone, too, and then
completed. -/
theorem read_completed (hoptional : ∀ o ∈ c.options, o.required = false) (hsubs : ∀ sub ∈ c.subcommands, sub.2.Plain)
    {words : List Bytes} {m : Matches} (h : c.read env words = .ok m) :
    ∃ bare, c.read [] words = .ok bare ∧ Completed env c bare m := by
  have hrel := readFrom_rel (R := fun r bare => ∀ m, r = .ok m → ∃ m', bare = .ok m' ∧ Completed env c m' m)
    (fun s sub m hm => conclude_completed hoptional hm) (fun _ _ => nofun)
    (fun sub hsub words => (hsubs sub hsub).readFrom_eq env {} words) {} words
  exact hrel m h

end CommandSpec

end TunnelControl
