import Exemplar.Proofs.Synthesis.Requirement

/-!
Runs of the resolver. A request can end in six ways, which `Answers` lists together with what each
one does to the memory. Everything else about runs is proved from this list: what is remembered
stays remembered, the types of the enclosing requests are not touched, and a property of the memory
that survives a new placeholder and a newly made triple survives every run.
-/

set_option autoImplicit false
set_option relaxedAutoImplicit false

namespace Exemplar

/-! ### The ways a request can end -/

/-- The placeholder of a type whose two values have the given number and the next one. -/
def Triple.placeholder (d : Descriptor) (number : Nat) : Triple where
  red := .ref number (.hollow d)
  black := .ref (number + 1) (.hollow d)
  redCopy := .ref number (.hollow d)

namespace Memory

/-- The memory with a placeholder for a type. -/
def hold (memory : Memory) (d : Descriptor) (shared : SharedTriple) : Memory :=
  ⟨memory.cache, memory.hollows.insert d shared⟩

/-- The memory with the triple of a resolved type. -/
def remember (memory : Memory) (d : Descriptor) (shared : SharedTriple) : Memory :=
  ⟨memory.cache.insert d shared, memory.hollows⟩

variable {memory : Memory} {d e : Descriptor} {shared other : SharedTriple}

theorem get?_of_hold (h : (memory.hold d shared).hollows.get? e = some other) :
    d = e ∧ shared = other ∨ memory.hollows.get? e = some other := by
  simp only [hold, Table.get?_insert] at h
  split at h
  · rename_i hde
    exact .inl ⟨hde, Option.some.inj h⟩
  · exact .inr h

theorem get?_of_remember (h : (memory.remember d shared).cache.get? e = some other) :
    d = e ∧ shared = other ∨ memory.cache.get? e = some other := by
  simp only [remember, Table.get?_insert] at h
  split at h
  · rename_i hde
    exact .inl ⟨hde, Option.some.inj h⟩
  · exact .inr h

end Memory

/-- The ways a request for a type can end, where the types it requires are requested by `request`.
-/
inductive Answers (sources : Sources) (request : Request) (path : RequestPath) (d : Descriptor)
    (progress : Progress) : EStateM.Result Failure Progress SharedTriple → Prop
  | cached {shared : SharedTriple} (hcache : progress.memory.cache.get? d = some shared) :
    Answers sources request path d progress (.ok shared progress)
  | held {shared : SharedTriple} (hcache : progress.memory.cache.get? d = none)
    (hpath : d ∈ path.types) (hhollow : progress.memory.hollows.get? d = some shared) :
    Answers sources request path d progress (.ok shared progress)
  | placed (hcache : progress.memory.cache.get? d = none) (hpath : d ∈ path.types)
    (hhollow : progress.memory.hollows.get? d = none) :
    Answers sources request path d progress
      (.ok ⟨progress.unused + 2, .placeholder d progress.unused⟩
        ⟨progress.memory.hold d ⟨progress.unused + 2, .placeholder d progress.unused⟩,
          progress.unused + 3⟩)
  | unmade {fault : Fault} (hcache : progress.memory.cache.get? d = none)
    (hpath : d ∉ path.types) (hrecipe : sources.recipe d = .error fault) :
    Answers sources request path d progress (.error (.fault fault) progress)
  | failed {recipe : Recipe} {failure : Failure} {reached : Progress}
    (hcache : progress.memory.cache.get? d = none) (hpath : d ∉ path.types)
    (hrecipe : sources.recipe d = .ok recipe)
    (hparts : requestAll request recipe.requirements progress = .error failure reached) :
    Answers sources request path d progress (.error failure reached)
  | made {recipe : Recipe} {parts : List SharedTriple} {reached : Progress} {triple : Triple}
    {unused : Nat} (hcache : progress.memory.cache.get? d = none) (hpath : d ∉ path.types)
    (hrecipe : sources.recipe d = .ok recipe)
    (hparts : requestAll request recipe.requirements progress = .ok parts reached)
    (hcombine : recipe.combine (parts.map SharedTriple.triple) reached.unused = (triple, unused)) :
    Answers sources request path d progress
      (.ok ⟨unused, triple⟩ ⟨reached.memory.remember d ⟨unused, triple⟩, unused + 1⟩)

namespace Resolution

variable {α β : Type} {run : Resolution α} {progress reached : Progress}

theorem bind_of_ok {answer : α} (hrun : run progress = .ok answer reached)
    (next : α → Resolution β) : (run >>= next) progress = next answer reached := by
  change EStateM.bind run next progress = _
  rw [EStateM.bind, hrun]

theorem bind_of_error {failure : Failure} (hrun : run progress = .error failure reached)
    (next : α → Resolution β) : (run >>= next) progress = .error failure reached := by
  change EStateM.bind run next progress = _
  rw [EStateM.bind, hrun]

theorem bind_congr_run {other : Resolution α} (hrun : run progress = other progress)
    (next : α → Resolution β) : (run >>= next) progress = (other >>= next) progress := by
  change EStateM.bind run next progress = EStateM.bind other next progress
  rw [EStateM.bind, EStateM.bind, hrun]

/-- A run of two parts is answered if both are. -/
theorem exists_of_bind_eq_ok {next : α → Resolution β} {answer : β}
    (hbind : (run >>= next) progress = .ok answer reached) :
    ∃ given middle, run progress = .ok given middle ∧ next given middle = .ok answer reached := by
  cases hrun : run progress with
  | error failure stopped =>
    rw [bind_of_error hrun] at hbind
    cases hbind
  | ok given middle =>
    rw [bind_of_ok hrun] at hbind
    exact ⟨given, middle, rfl, hbind⟩

theorem eq_of_ofExcept_eq_ok {result : Except Fault α} {answer : α}
    (hrun : ofExcept result progress = .ok answer reached) :
    result = .ok answer ∧ progress = reached := by
  cases result with
  | error fault => cases hrun
  | ok given =>
    cases hrun
    exact ⟨rfl, rfl⟩

theorem memory_bind (next : Memory → Resolution α) (progress : Progress) :
    (memory >>= next) progress = next progress.memory progress :=
  rfl

theorem hollow_of_held {d : Descriptor} {shared : SharedTriple}
    (hhollow : progress.memory.hollows.get? d = some shared) :
    hollow d progress = .ok shared progress := by
  unfold hollow
  refine (memory_bind _ progress).trans ?_
  rw [hhollow]
  rfl

theorem hollow_of_not_held {d : Descriptor} (hhollow : progress.memory.hollows.get? d = none) :
    hollow d progress =
      .ok ⟨progress.unused + 2, .placeholder d progress.unused⟩
        ⟨progress.memory.hold d ⟨progress.unused + 2, .placeholder d progress.unused⟩,
          progress.unused + 3⟩ := by
  unfold hollow
  refine (memory_bind _ progress).trans ?_
  rw [hhollow]
  rfl

end Resolution

theorem Recipe.follow_of_ok {request : Request} {recipe : Recipe} {parts : List SharedTriple}
    {progress reached : Progress} {triple : Triple} {unused : Nat}
    (hparts : requestAll request recipe.requirements progress = .ok parts reached)
    (hcombine :
      recipe.combine (parts.map SharedTriple.triple) reached.unused = (triple, unused)) :
    recipe.follow request progress = .ok triple ⟨reached.memory, unused⟩ := by
  refine (Resolution.bind_of_ok hparts _).trans ?_
  change EStateM.Result.ok (recipe.combine _ reached.unused).1
    (Progress.mk _ (recipe.combine _ reached.unused).2) = _
  rw [hcombine]

/-- Following a recipe fails exactly if the requests do. -/
theorem Recipe.follow_eq_error_iff {request : Request} {recipe : Recipe}
    {progress reached : Progress} {failure : Failure} :
    recipe.follow request progress = .error failure reached ↔
      requestAll request recipe.requirements progress = .error failure reached := by
  cases hparts : requestAll request recipe.requirements progress with
  | ok parts middle =>
    rw [follow_of_ok hparts rfl]
    exact ⟨nofun, nofun⟩
  | error stated stopped =>
    have hfollow : recipe.follow request progress = .error stated stopped :=
      Resolution.bind_of_error hparts _
    rw [hfollow, EStateM.Result.error.injEq, EStateM.Result.error.injEq]

namespace Sources

variable {sources : Sources} {depth : Nat} {path : RequestPath} {d : Descriptor}
variable {progress : Progress}

theorem create_isFinal (sources : Sources) (request : Request) (d : Descriptor) :
    (sources.create request d).IsFinal := by
  unfold create
  split
  · exact Resolution.isFinal_fatal _
  · exact Resolution.isFinal_orIfUnsupported (Resolution.isFinal_fatal _)

theorem resolveWithin_of_cached (sources : Sources) (depth : Nat) (path : RequestPath)
    {shared : SharedTriple} (hcache : progress.memory.cache.get? d = some shared) :
    sources.resolveWithin (depth + 1) path d progress = .ok shared progress := by
  unfold resolveWithin
  refine (Resolution.memory_bind _ progress).trans ?_
  rw [hcache]
  rfl

theorem resolveWithin_of_not_cached (hcache : progress.memory.cache.get? d = none) :
    sources.resolveWithin (depth + 1) path d progress =
      if d ∈ path.types then Resolution.hollow d progress
      else (sources.create (sources.resolveWithin depth (path.extend d)) d >>=
        Resolution.remember d) progress := by
  unfold resolveWithin
  refine (Resolution.memory_bind _ progress).trans ?_
  rw [hcache]
  dsimp only
  by_cases hpath : d ∈ path.types
  · rw [if_pos hpath, if_pos ((path.contains_iff_mem_types d).2 hpath)]
  · rw [if_neg hpath, if_neg fun h ↦ hpath ((path.contains_iff_mem_types d).1 h)]

/-- A run of the resolver never ends with a declined type. -/
theorem resolveWithin_isFinal (sources : Sources) (depth : Nat) (path : RequestPath) :
    Request.IsFinal (sources.resolveWithin depth path) := by
  intro d progress fault reached hrun
  cases depth with
  | zero => cases hrun
  | succ depth =>
    cases hcache : progress.memory.cache.get? d with
    | some shared =>
      rw [resolveWithin_of_cached sources depth path hcache] at hrun
      cases hrun
    | none =>
      rw [resolveWithin_of_not_cached hcache] at hrun
      split at hrun
      · cases hhollow : progress.memory.hollows.get? d with
        | some shared => rw [Resolution.hollow_of_held hhollow] at hrun; cases hrun
        | none => rw [Resolution.hollow_of_not_held hhollow] at hrun; cases hrun
      · refine Resolution.isFinal_bind (sources.create_isFinal _ d) (fun triple ↦ ?_) _ _ _ hrun
        intro progress fault reached hremember
        cases hremember

/-- A request ends in one of the six ways, unless no nested request is allowed. -/
theorem answers_resolveWithin (sources : Sources) (depth : Nat) (path : RequestPath)
    (d : Descriptor) (progress : Progress) :
    Answers sources (sources.resolveWithin depth (path.extend d)) path d progress
      (sources.resolveWithin (depth + 1) path d progress) := by
  cases hcache : progress.memory.cache.get? d with
  | some shared =>
    rw [resolveWithin_of_cached sources depth path hcache]
    exact .cached hcache
  | none =>
    rw [resolveWithin_of_not_cached hcache]
    split
    · rename_i hpath
      cases hhollow : progress.memory.hollows.get? d with
      | some shared =>
        rw [Resolution.hollow_of_held hhollow]
        exact .held hcache hpath hhollow
      | none =>
        rw [Resolution.hollow_of_not_held hhollow]
        exact .placed hcache hpath hhollow
    · rename_i hpath
      rw [create_eq_follow sources (sources.resolveWithin_isFinal depth (path.extend d))]
      cases hrecipe : sources.recipe d with
      | error fault => exact .unmade hcache hpath hrecipe
      | ok recipe =>
        rw [Resolution.ofExcept_ok_bind]
        cases hparts : requestAll (sources.resolveWithin depth (path.extend d))
          recipe.requirements progress with
        | error failure reached =>
          have hfollow : recipe.follow (sources.resolveWithin depth (path.extend d)) progress =
              .error failure reached := Resolution.bind_of_error hparts _
          rw [Resolution.bind_of_error hfollow]
          exact .failed hcache hpath hrecipe hparts
        | ok parts reached =>
          cases hcombine : recipe.combine (parts.map SharedTriple.triple) reached.unused with
          | mk triple unused =>
            rw [Resolution.bind_of_ok (Recipe.follow_of_ok hparts hcombine)]
            have hmade := Answers.made hcache hpath hrecipe hparts hcombine
            exact hmade

end Sources

/-! ### What every run keeps -/

namespace Resolution

/-- The progress in which a run ends, with an answer or not. -/
def reached {α : Type} : EStateM.Result Failure Progress α → Progress
  | .ok _ progress => progress
  | .error _ progress => progress

@[simp]
theorem reached_ok {α : Type} (answer : α) (progress : Progress) :
    reached (.ok answer progress) = progress :=
  rfl

@[simp]
theorem reached_error {α : Type} (failure : Failure) (progress : Progress) :
    reached (.error failure progress : EStateM.Result Failure Progress α) = progress :=
  rfl

end Resolution

section RequestAll

variable {request : Request} {d : Descriptor} {ds : List Descriptor} {progress : Progress}

theorem requestAll_cons_of_error {failure : Failure} {stopped : Progress}
    (hrun : request d progress = .error failure stopped) :
    requestAll request (d :: ds) progress = .error failure stopped :=
  Resolution.bind_of_error hrun _

theorem requestAll_cons_of_ok {shared : SharedTriple} {middle : Progress}
    (hrun : request d progress = .ok shared middle) :
    requestAll request (d :: ds) progress =
      match requestAll request ds middle with
      | .ok others last => .ok (shared :: others) last
      | .error failure stopped => .error failure stopped := by
  refine (Resolution.bind_of_ok hrun _).trans ?_
  cases hothers : requestAll request ds middle with
  | ok others last => exact (Resolution.bind_of_ok hothers _).trans rfl
  | error failure stopped => exact Resolution.bind_of_error hothers _

/-- Requests in a row are answered if the first one is and then the others. -/
theorem requestAll_cons_eq_ok_iff {answers : List SharedTriple} {last : Progress} :
    requestAll request (d :: ds) progress = .ok answers last ↔
      ∃ shared middle others, request d progress = .ok shared middle ∧
        requestAll request ds middle = .ok others last ∧ answers = shared :: others := by
  constructor
  · intro hrun
    cases hfirst : request d progress with
    | error failure stopped =>
      rw [requestAll_cons_of_error hfirst] at hrun
      cases hrun
    | ok shared middle =>
      rw [requestAll_cons_of_ok hfirst] at hrun
      cases hothers : requestAll request ds middle with
      | error failure stopped =>
        rw [hothers] at hrun
        cases hrun
      | ok others reached =>
        rw [hothers] at hrun
        cases hrun
        exact ⟨shared, middle, others, rfl, hothers, rfl⟩
  · rintro ⟨shared, middle, others, hfirst, hothers, rfl⟩
    rw [requestAll_cons_of_ok hfirst, hothers]

/-- Requests in a row keep what each of them keeps. -/
theorem requestAll_keeps (Inv : Progress → Prop)
    (hinv : ∀ d ∈ ds, ∀ progress, Inv progress → Inv (Resolution.reached (request d progress)))
    (hprogress : Inv progress) : Inv (Resolution.reached (requestAll request ds progress)) := by
  induction ds generalizing progress with
  | nil => exact hprogress
  | cons d ds ih =>
    have hfirst := hinv d List.mem_cons_self progress hprogress
    cases hrun : request d progress with
    | error failure stopped =>
      rw [hrun] at hfirst
      rw [requestAll_cons_of_error hrun]
      exact hfirst
    | ok shared middle =>
      rw [hrun, Resolution.reached_ok] at hfirst
      have hlast := ih (fun e he ↦ hinv e (List.mem_cons_of_mem d he)) hfirst
      rw [requestAll_cons_of_ok hrun]
      cases hothers : requestAll request ds middle <;> rwa [hothers] at hlast

/-- At the end of requests in a row each answer still is what it was when it was given. -/
theorem requestAll_answers (Inv : Progress → Prop)
    (Good : Progress → Descriptor → SharedTriple → Prop)
    (hinv : ∀ d ∈ ds, ∀ progress, Inv progress → Inv (Resolution.reached (request d progress)))
    (hgood : ∀ d ∈ ds, ∀ progress shared last, Inv progress →
      request d progress = .ok shared last → Good last d shared)
    (hstable : ∀ d ∈ ds, ∀ e shared progress, Inv progress → Good progress e shared →
      Good (Resolution.reached (request d progress)) e shared)
    {answers : List SharedTriple} {last : Progress} (hprogress : Inv progress)
    (hrun : requestAll request ds progress = .ok answers last) :
    List.Forall₂ (Good last) ds answers := by
  induction ds generalizing progress answers last with
  | nil =>
    cases hrun
    exact .nil
  | cons d ds ih =>
    have hd := List.mem_cons_self (a := d) (l := ds)
    have htail : ∀ e ∈ ds, e ∈ d :: ds := fun e he ↦ List.mem_cons_of_mem d he
    obtain ⟨shared, middle, others, hshared, hothers, rfl⟩ := requestAll_cons_eq_ok_iff.1 hrun
    have hfirst := hinv d hd progress hprogress
    have hgiven : Good middle d shared := hgood d hd progress shared middle hprogress hshared
    rw [hshared, Resolution.reached_ok] at hfirst
    refine .cons ?_ (ih (fun e he ↦ hinv e (htail e he)) (fun e he ↦ hgood e (htail e he))
      (fun e he ↦ hstable e (htail e he)) hfirst hothers)
    have hkept := requestAll_keeps (fun later ↦ Inv later ∧ Good later d shared)
      (fun e he later hlater ↦ ⟨hinv e (htail e he) later hlater.1,
        hstable e (htail e he) d shared later hlater.1 hlater.2⟩) ⟨hfirst, hgiven⟩
    rw [hothers] at hkept
    exact hkept.2

end RequestAll

/-- From one memory to a later one nothing is forgotten or replaced, and no type on a path is
added. -/
structure Memory.GrowsOutside (path : RequestPath) (earlier later : Memory) : Prop where
  cache : ∀ d shared, earlier.cache.get? d = some shared → later.cache.get? d = some shared
  hollows : ∀ d shared, earlier.hollows.get? d = some shared → later.hollows.get? d = some shared
  path : ∀ d ∈ path.types, later.cache.get? d = earlier.cache.get? d

namespace Memory

variable {path : RequestPath} {first middle last : Memory}

theorem GrowsOutside.refl (path : RequestPath) (memory : Memory) :
    GrowsOutside path memory memory :=
  ⟨fun _ _ h ↦ h, fun _ _ h ↦ h, fun _ _ ↦ rfl⟩

theorem GrowsOutside.trans (hfirst : GrowsOutside path first middle)
    (hlast : GrowsOutside path middle last) : GrowsOutside path first last :=
  ⟨fun d shared h ↦ hlast.cache d shared (hfirst.cache d shared h),
    fun d shared h ↦ hlast.hollows d shared (hfirst.hollows d shared h),
    fun d hd ↦ (hlast.path d hd).trans (hfirst.path d hd)⟩

theorem GrowsOutside.of_extend {d : Descriptor} (h : GrowsOutside (path.extend d) first last) :
    GrowsOutside path first last :=
  ⟨h.cache, h.hollows, fun e he ↦ h.path e ((path.mem_types_extend d e).2 (.inl he))⟩

theorem growsOutside_hold {memory : Memory} {d : Descriptor} {shared : SharedTriple}
    (hhollow : memory.hollows.get? d = none) : GrowsOutside path memory (memory.hold d shared) := by
  refine ⟨fun _ _ h ↦ h, fun e held h ↦ ?_, fun _ _ ↦ rfl⟩
  have hne : ¬d = e := fun hde ↦ by
    rw [hde, h] at hhollow
    cases hhollow
  simp [hold, hne, h]

theorem growsOutside_remember {memory : Memory} {d : Descriptor} {shared : SharedTriple}
    (hcache : memory.cache.get? d = none) (hpath : d ∉ path.types) :
    GrowsOutside path memory (memory.remember d shared) := by
  refine ⟨fun e cached h ↦ ?_, fun _ _ h ↦ h, fun e he ↦ ?_⟩
  · have hne : ¬d = e := fun hde ↦ by
      rw [hde, h] at hcache
      cases hcache
    simp [remember, hne, h]
  · have hne : ¬d = e := fun hde ↦ hpath (hde ▸ he)
    simp [remember, hne]

/-- Requests in a row grow the memory outside a path if each of them does. -/
theorem growsOutside_requestAll {request : Request}
    (hrequest : ∀ d progress,
      GrowsOutside path progress.memory (Resolution.reached (request d progress)).memory)
    (ds : List Descriptor) (progress : Progress) :
    GrowsOutside path progress.memory
      (Resolution.reached (requestAll request ds progress)).memory :=
  requestAll_keeps (fun later ↦ GrowsOutside path progress.memory later.memory)
    (fun d _ later hlater ↦ hlater.trans (hrequest d later)) (.refl path _)

end Memory

namespace Sources

/-- A run forgets and replaces nothing, and adds no type on its path. A type is remembered when its
requests have ended, and these had it on their path, so it was not remembered by one of them. -/
theorem growsOutside_resolveWithin (sources : Sources) (depth : Nat) (path : RequestPath)
    (d : Descriptor) (progress : Progress) :
    Memory.GrowsOutside path progress.memory
      (Resolution.reached (sources.resolveWithin depth path d progress)).memory := by
  induction depth generalizing path d progress with
  | zero => exact .refl path _
  | succ depth ih =>
    have hparts (ds : List Descriptor) :=
      Memory.growsOutside_requestAll (ih (path.extend d)) ds progress
    have hanswer := sources.answers_resolveWithin depth path d progress
    generalize sources.resolveWithin (depth + 1) path d progress = result at hanswer
    cases hanswer with
    | cached hcache => exact .refl path _
    | held hcache hpath hhollow => exact .refl path _
    | placed hcache hpath hhollow => exact Memory.growsOutside_hold hhollow
    | unmade hcache hpath hrecipe => exact .refl path _
    | @failed recipe failure stopped hcache hpath hrecipe hrun =>
      have hgrown := hparts recipe.requirements
      rw [hrun] at hgrown
      exact hgrown.of_extend
    | @made recipe parts last triple unused hcache hpath hrecipe hrun hcombine =>
      have hgrown := hparts recipe.requirements
      rw [hrun, Resolution.reached_ok] at hgrown
      have hmissing := (hgrown.path d ((path.mem_types_extend d d).2 (.inr rfl))).trans hcache
      exact hgrown.of_extend.trans (Memory.growsOutside_remember hmissing hpath)

end Sources

end Exemplar
