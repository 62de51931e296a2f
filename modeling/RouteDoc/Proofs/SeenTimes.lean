import Mathlib.Data.List.Nodup
import RouteDoc.Watch.Looks

/-! Which paths have changed. A look keeps a path if it sees it at another time than the look that saw it last, or sees
it for the first time. So the decision is about the whole history of a path, with all looks left out that did not
see it. -/

namespace RouteDoc

namespace Look
variable {look : Look} {path : Path} {now : Time}

/-- Whether paths with the same parts have the same time, under whatever path they are listed. -/
def Uniform (look : Look) : Prop :=
  ∀ first ∈ look.listed, ∀ second ∈ look.listed, first.parts = second.parts → look.time first = look.time second

theorem Distinct.uniform (distinct : look.Distinct) : look.Uniform := by
  intro first member second also same
  rw [List.inj_on_of_nodup_map distinct member also same]

theorem seen?_eq_some (seen : look.seen? path = some now) :
    ∃ listed ∈ look.listed, listed.parts = path.parts ∧ look.time listed = .ok now := by
  obtain ⟨listed, member, found⟩ := List.exists_of_findSome?_eq_some seen
  refine ⟨listed, List.mem_reverse.mp member, ?_⟩
  split at found
  next same =>
    cases stat : look.time listed with
    | error => simp [stat, Except.toOption] at found
    | ok time =>
      rw [stat] at found
      exact ⟨same, congrArg Except.ok (Option.some.inj found)⟩
  next => cases found

/-- A path that is listed is seen at the time that it has. -/
theorem Uniform.seen?_eq (uniform : look.Uniform) {listed : Path} (member : listed ∈ look.listed)
    (same : listed.parts = path.parts) : look.seen? path = (look.time listed).toOption := by
  cases seen : look.seen? path with
  | none =>
    have unseen := List.findSome?_eq_none_iff.mp seen listed (List.mem_reverse.mpr member)
    rw [if_pos same] at unseen
    exact unseen.symm
  | some time =>
    obtain ⟨other, also, equal, stat⟩ := seen?_eq_some seen
    rw [uniform listed member other also (same.trans equal.symm), stat]
    rfl

theorem Uniform.tail {first : Path} {rest : List Path} {time : Path → Except FileError Time}
    (uniform : Uniform ⟨first :: rest, time⟩) : Uniform ⟨rest, time⟩ :=
  fun one member other also => uniform one (List.mem_cons_of_mem _ member) other (List.mem_cons_of_mem _ also)

end Look

namespace WatchMemory
open Look
variable {memory : WatchMemory} {listed : List Path} {time : Path → Except FileError Time}

theorem sublist_look (time : Path → Except FileError Time) (memory : WatchMemory) (listed : List Path) :
    (memory.look time listed).2.Sublist listed := by
  induction listed generalizing memory with
  | nil => exact .slnil
  | cons first rest ih =>
    unfold look
    cases time first with
    | error => exact (ih memory).cons first
    | ok now =>
      dsimp only
      split
      · exact (ih _).cons first
      · exact (ih _).cons_cons first

/-- What has its remembered time under every path that leads to it is not kept under any of them. -/
theorem not_kept {path : Path} {now : Time} (known : memory.time? path = some now)
    (alike : ∀ other ∈ listed, other.parts = path.parts → time other = .ok now) :
    ∀ kept ∈ (memory.look time listed).2, kept.parts ≠ path.parts := by
  induction listed generalizing memory with
  | nil => exact nofun
  | cons first rest ih =>
    obtain ⟨first_alike, others⟩ := List.forall_mem_cons.mp alike
    unfold look
    by_cases same : first.parts = path.parts
    · have held : memory.time? first = some now := by rw [← known, time?, time?, same]
      simp only [first_alike same, held, if_true]
      exact ih (by rw [time?_record, if_pos same.symm]) others
    · cases time first with
      | error => exact ih known others
      | ok seen =>
        have unchanged : (memory.record first seen).time? path = some now := by
          rwa [time?_record, if_neg (Ne.symm same)]
        have later := ih unchanged others
        dsimp only
        split
        · exact later
        · exact List.forall_mem_cons.mpr ⟨same, later⟩

theorem kept_once {first : Path} {rest : List Path} {now : Time} (uniform : Uniform ⟨first :: rest, time⟩)
    (stat : time first = .ok now) (memory : WatchMemory) :
    ∀ kept ∈ ((memory.record first now).look time rest).2, kept.parts ≠ first.parts := by
  apply not_kept (by rw [time?_record, if_pos rfl])
  intro other member same
  exact (uniform other (List.mem_cons_of_mem _ member) first List.mem_cons_self same).trans stat

/-- A look keeps what it sees at a time that is not the remembered one. Once a path was kept, its time is remembered,
so it is not kept again under another spelling. -/
theorem keeps_iff (uniform : Uniform ⟨listed, time⟩) (memory : WatchMemory) (path : Path) :
    (∃ kept ∈ (memory.look time listed).2, kept.parts = path.parts) ↔
      ∃ now, seen? ⟨listed, time⟩ path = some now ∧ memory.time? path ≠ some now := by
  induction listed generalizing memory with
  | nil => simp [look, seen?]
  | cons first rest ih =>
    have later := ih uniform.tail
    rw [seen?_cons, look]
    cases stat : time first with
    | error => simpa [Except.toOption] using later memory
    | ok now =>
      dsimp only
      by_cases same : first.parts = path.parts
      · have seen : (seen? ⟨rest, time⟩ path).or (some now) = some now := by
          have whole := uniform.seen?_eq List.mem_cons_self same
          rw [seen?_cons, if_pos same] at whole
          simpa [stat, Except.toOption] using whole
        rw [if_pos same, Except.toOption, seen]
        -- The others see the path at the time that was just remembered.
        have none : ¬ ∃ kept ∈ ((memory.record first now).look time rest).2, kept.parts = path.parts := by
          rintro ⟨kept, again, equal⟩
          exact kept_once uniform stat memory kept again (equal.trans same.symm)
        have known : memory.time? first = memory.time? path := by rw [time?, time?, same]
        rw [known]
        split
        next remembered => simpa [remembered] using none
        next fresh => simpa [same] using fresh
      · have others : (∃ kept ∈ ((memory.record first now).look time rest).2, kept.parts = path.parts) ↔
            ∃ later, seen? ⟨rest, time⟩ path = some later ∧ memory.time? path ≠ some later := by
          rw [later, time?_record, if_neg (Ne.symm same)]
        rw [if_neg same, Option.or_none, ← others]
        split
        · rfl
        · simp [same]

/-- The same look once more keeps nothing. -/
theorem look_again (uniform : Uniform ⟨listed, time⟩) (memory : WatchMemory) :
    ((memory.look time listed).1.look time listed).2 = [] := by
  apply List.eq_nil_iff_forall_not_mem.mpr
  intro path member
  obtain ⟨now, seen, differs⟩ := (keeps_iff uniform _ path).mp ⟨path, member, rfl⟩
  rw [time?_look, seen, Option.some_or] at differs
  exact differs rfl

/-- What is remembered of a path is not its time now exactly if it was never seen, or was seen last at another time. -/
theorem time?_ne_iff (past : List Look) (path : Path) (now : Time) :
    (empty.after past).time? path ≠ some now ↔ (∀ earlier ∈ past, earlier.seen? path = none) ∨
      ∃ before latest later last, past = before ++ latest :: later ∧ latest.seen? path = some last ∧
        (∀ one ∈ later, one.seen? path = none) ∧ last ≠ now := by
  have known : (empty.after past).time? path = past.reverse.findSome? (·.seen? path) := by
    rw [time?_after]
    exact Option.or_none
  rw [known]
  constructor
  · intro differs
    cases found : past.reverse.findSome? (·.seen? path) with
    | none =>
      left
      intro earlier member
      exact List.findSome?_eq_none_iff.mp found earlier (List.mem_reverse.mpr member)
    | some last =>
      right
      obtain ⟨later, latest, before, reversed, seen, unseen⟩ := List.findSome?_eq_some_iff.mp found
      refine ⟨before.reverse, latest, later.reverse, last, ?_, seen, ?_, ?_⟩
      · rw [← List.reverse_inj, reversed]
        simp
      · exact fun one member => unseen one (List.mem_reverse.mp member)
      · rintro rfl
        exact differs found
  · rintro (never | ⟨before, latest, later, last, rfl, seen, unseen, differs⟩) same
    · obtain ⟨earlier, member, seen⟩ := List.exists_of_findSome?_eq_some same
      rw [never earlier (List.mem_reverse.mp member)] at seen
      cases seen
    · have found : (before ++ latest :: later).reverse.findSome? (·.seen? path) = some last := by
        apply List.findSome?_eq_some_iff.mpr
        refine ⟨later.reverse, latest, before.reverse, by simp, seen, ?_⟩
        exact fun one member => unseen one (List.mem_reverse.mp member)
      exact differs (Option.some.inj (found.symm.trans same))

/-- A look keeps, in their order, the paths that it sees for the first time or at another time than the last look that
saw them. It leaves no trace of a path that it does not see, and the same look once more keeps nothing. -/
theorem look_keeps (past : List Look) {look : Look} (distinct : look.Distinct) :
    let kept := ((empty.after past).look look.time look.listed).2
    kept.Sublist look.listed ∧
    (∀ path ∈ look.listed, path ∈ kept ↔ ∃ now, look.time path = .ok now ∧
      ((∀ earlier ∈ past, earlier.seen? path = none) ∨
        ∃ before latest later last, past = before ++ latest :: later ∧ latest.seen? path = some last ∧
          (∀ one ∈ later, one.seen? path = none) ∧ last ≠ now)) ∧
    (∀ path, look.seen? path = none → ∀ future,
      (empty.after (past ++ look :: future)).time? path = (empty.after (past ++ future)).time? path) ∧
    ((empty.after (past ++ [look])).look look.time look.listed).2 = [] := by
  intro kept
  have uniform := distinct.uniform
  have ordered : kept.Sublist look.listed := sublist_look look.time (empty.after past) look.listed
  refine ⟨ordered, ?_, ?_, ?_⟩
  · intro path member
    have itself : path ∈ kept ↔ ∃ other ∈ kept, other.parts = path.parts := by
      refine ⟨fun inside => ⟨path, inside, rfl⟩, ?_⟩
      rintro ⟨other, inside, same⟩
      rwa [← List.inj_on_of_nodup_map distinct (ordered.subset inside) member same]
    rw [itself, keeps_iff uniform (empty.after past) path, uniform.seen?_eq member rfl]
    simp only [time?_ne_iff]
    cases look.time path with
    | error => simp [Except.toOption]
    | ok now => simp [Except.toOption]
  · intro path unseen future
    rw [after_append, after_append, after, time?_after, time?_after, time?_look, unseen, Option.none_or]
  · rw [after_append]
    exact look_again uniform (empty.after past)

/-- A file without a time for a while, and one that comes back with an earlier time. Only the latter is kept, under
another spelling than the one under which it was seen. -/
theorem look_keeps_returned :
    let first : Look := ⟨[⟨"a.codl"⟩, ⟨"s/b.codl"⟩], fun path => .ok (if path = ⟨"a.codl"⟩ then 5 else 3)⟩
    let second : Look := ⟨[⟨"a.codl"⟩], fun _ => .error .notFound⟩
    let third : Look := ⟨[⟨"s//b.codl"⟩, ⟨"a.codl"⟩], fun path => .ok (if path = ⟨"a.codl"⟩ then 5 else 2)⟩
    third.Distinct ∧
      ⟨"s//b.codl"⟩ ∈ ((empty.after [first, second]).look third.time third.listed).2 ∧
      ⟨"a.codl"⟩ ∉ ((empty.after [first, second]).look third.time third.listed).2 ∧
      ((empty.after [first, second, third]).look third.time third.listed).2 = [] := by
  intro first second third
  have distinct : third.Distinct := by
    unfold Look.Distinct
    decide +kernel
  obtain ⟨_, keeps, _, again⟩ := look_keeps [first, second] distinct
  refine ⟨distinct, ?_, by decide +kernel, again⟩
  apply (keeps ⟨"s//b.codl"⟩ List.mem_cons_self).mpr
  exact ⟨2, by decide +kernel, .inr ⟨[], first, [second], 3, rfl, by decide +kernel, by decide +kernel, by decide⟩⟩

end WatchMemory
end RouteDoc
