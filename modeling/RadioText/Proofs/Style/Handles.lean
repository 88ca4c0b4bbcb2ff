import RadioText.Style.Cache

/-! Templates in use while others replace them. A template that was taken stays what it was; it is
the one in effect for as long as nothing is replaced, and after that it is another one, even if its
style comes back. A subscription has missed something as soon as something is replaced. -/
namespace RadioText

namespace Cache

inductive Use
  | update (style : Text)
  /-- The template in effect is taken. -/
  | hold
  | evaluate (m : Metadata)
  | subscribe
  | changed (i : Nat)
  | see (i : Nat)

def Use.style? : Use → Option Text
  | .update s => some s
  | _ => none

def after (c : Cache) : Use → Cache
  | .update s => (c.update s).1
  | _ => c

def replacedBy (c : Cache) : Use → Bool
  | .update s => (c.update s).2
  | _ => false

def through (c : Cache) (uses : List Use) : Cache := uses.foldl after c

def Replaced (c : Cache) : List Use → Prop
  | [] => False
  | u :: uses => c.replacedBy u = true ∨ (c.after u).Replaced uses

theorem update_of_eq {c : Cache} {s : Text} (h : s = c.template.source) :
    c.update s = (c, false) := if_pos h

theorem update_of_ne {c : Cache} {s : Text} (h : s ≠ c.template.source) :
    c.update s = (⟨c.version + 1, Template.ofStyle s⟩, true) := if_neg h

theorem update_eq_true_iff (c : Cache) (s : Text) :
    (c.update s).2 = true ↔ s ≠ c.template.source := by
  by_cases h : s = c.template.source
  · rw [update_of_eq h]
    simp [h]
  · rw [update_of_ne h]
    simp [h]

theorem identical_update_iff (c : Cache) (s : Text) :
    (c.update s).1.identical c = true ↔ (c.update s).2 = false := by
  by_cases h : s = c.template.source
  · simp [update_of_eq h, identical]
  · simp [update_of_ne h, identical]

/-- The version counts the replacements. -/
theorem version_after (c : Cache) (u : Use) :
    (c.after u).version = c.version + (c.replacedBy u).toNat := by
  cases u with
  | update s =>
    rw [after, replacedBy]
    by_cases h : s = c.template.source
    · simp [update_of_eq h]
    · simp [update_of_ne h]
  | _ => rfl

theorem version_through (c : Cache) (uses : List Use) :
    c.version ≤ (c.through uses).version ∧
      (c.version = (c.through uses).version ↔ ¬ c.Replaced uses) := by
  induction uses generalizing c with
  | nil => simp [through, Replaced]
  | cons u uses ih =>
    obtain ⟨hle, heq⟩ := ih (c.after u)
    have hstep := c.version_after u
    change c.version ≤ ((c.after u).through uses).version ∧
      (c.version = ((c.after u).through uses).version ↔
        ¬ (c.replacedBy u = true ∨ (c.after u).Replaced uses))
    cases hu : c.replacedBy u with
    | false =>
      rw [hu, Bool.toNat_false, Nat.add_zero] at hstep
      rw [hstep] at hle heq
      simpa using ⟨hle, heq⟩
    | true =>
      rw [hu, Bool.toNat_true] at hstep
      simp only [true_or, not_true_eq_false, iff_false]
      omega

/-- The style is the one of the last update, and the template is its template. -/
theorem template_through {c : Cache} (h : c.template = Template.ofStyle c.template.source)
    (uses : List Use) :
    (c.through uses).template =
      Template.ofStyle ((uses.filterMap Use.style?).getLast?.getD c.template.source) := by
  induction uses generalizing c with
  | nil => exact h
  | cons u uses ih =>
    cases u with
    | update s =>
      have hs : (c.update s).1.template = Template.ofStyle s := by
        by_cases heq : s = c.template.source
        · rw [update_of_eq heq, heq]
          exact h
        · rw [update_of_ne heq]
      have hsource : (c.update s).1.template.source = s := by
        rw [hs]
        rfl
      have hrest := ih (c := (c.update s).1) (by rw [hsource, hs])
      have hstyles : (Use.update s :: uses).filterMap Use.style? =
          s :: uses.filterMap Use.style? := rfl
      rw [hsource] at hrest
      rw [hstyles, List.getLast?_cons, Option.getD_some]
      exact hrest
    | _ => exact ih h

end Cache

structure SharedCache where
  cache : Cache
  /-- All templates that were ever in effect, in order. -/
  installed : List Template
  /-- Those that were taken, in order. -/
  held : List Cache
  subscriptions : List Subscription

namespace SharedCache

def ofStyle (style : Text) : SharedCache :=
  ⟨Cache.ofStyle style, [(Cache.ofStyle style).template], [], []⟩

def use (x : SharedCache) (u : Cache.Use) : SharedCache :=
  let cache := x.cache.after u
  { cache
    installed :=
      if x.cache.replacedBy u then x.installed ++ [cache.template] else x.installed
    held :=
      match u with
      | .hold => x.held ++ [cache]
      | _ => x.held
    subscriptions :=
      match u with
      | .subscribe => x.subscriptions ++ [cache.subscribe]
      | .see i => x.subscriptions.set i cache.subscribe
      | _ => x.subscriptions }

def run (x : SharedCache) (uses : List Cache.Use) : SharedCache := uses.foldl use x

/-- The use leaves a subscription with nothing pending: it is new, or has seen the template. -/
def CatchesUp (x : SharedCache) (i : Nat) : Cache.Use → Prop
  | .subscribe => i = x.subscriptions.length
  | .see j => i = j ∧ i < x.subscriptions.length
  | _ => False

theorem run_split (x : SharedCache) (before : List Cache.Use) (u : Cache.Use)
    (since : List Cache.Use) :
    x.run (before ++ u :: since) = ((x.run before).use u).run since := by
  rw [run, List.foldl_append]
  rfl

theorem cache_run (x : SharedCache) (uses : List Cache.Use) :
    (x.run uses).cache = x.cache.through uses := by
  induction uses generalizing x with
  | nil => rfl
  | cons u uses ih => exact ih (x.use u)

/-- What was taken is not touched again. -/
theorem held_run (x : SharedCache) (uses : List Cache.Use) : x.held <+: (x.run uses).held := by
  induction uses generalizing x with
  | nil => exact List.prefix_rfl
  | cons u uses ih =>
    have hstep : x.held <+: (x.use u).held := by
      cases u with
      | hold => exact List.prefix_append _ _
      | _ => exact List.prefix_rfl
    exact hstep.trans (ih (x.use u))

/-- A subscription is touched only where it sees the template. -/
theorem subscriptions_run {x : SharedCache} {i : Nat} {s : Subscription}
    (h : x.subscriptions[i]? = some s) {uses : List Cache.Use} (hsee : .see i ∉ uses) :
    (x.run uses).subscriptions[i]? = some s := by
  induction uses generalizing x with
  | nil => exact h
  | cons u uses ih =>
    refine ih ?_ fun hmem => hsee (List.mem_cons_of_mem _ hmem)
    cases u with
    | subscribe =>
      exact (List.getElem?_append_left (List.getElem?_eq_some_iff.1 h).1).trans h
    | see j =>
      have hne : j ≠ i := by
        rintro rfl
        exact hsee List.mem_cons_self
      exact (List.getElem?_set_ne hne).trans h
    | _ => exact h

theorem CatchesUp.subscriptions {x : SharedCache} {i : Nat} {u : Cache.Use}
    (h : x.CatchesUp i u) :
    (x.use u).cache = x.cache ∧ (x.use u).subscriptions[i]? = some x.cache.subscribe := by
  cases u with
  | subscribe =>
    obtain rfl : i = x.subscriptions.length := h
    exact ⟨rfl, List.getElem?_concat_length⟩
  | see j =>
    obtain ⟨rfl, hlt⟩ := h
    exact ⟨rfl, List.getElem?_set_self hlt⟩
  | _ => exact h.elim

structure Placed (x : SharedCache) : Prop where
  length : x.installed.length = x.cache.version + 1
  mem : ∀ h ∈ x.cache :: x.held, x.installed[h.version]? = some h.template

theorem placed_ofStyle (style : Text) : (ofStyle style).Placed :=
  ⟨rfl, by simp [ofStyle, Cache.ofStyle]⟩

theorem Placed.use {x : SharedCache} (h : x.Placed) (u : Cache.Use) : (x.use u).Placed := by
  cases u with
  | update s =>
    by_cases heq : s = x.cache.template.source
    · have hkept : x.use (.update s) = x := by
        simp [SharedCache.use, Cache.after, Cache.replacedBy, Cache.update_of_eq heq]
      rwa [hkept]
    · have hnew : x.use (.update s) = { x with
          cache := ⟨x.cache.version + 1, Template.ofStyle s⟩
          installed := x.installed ++ [Template.ofStyle s] } := by
        simp [SharedCache.use, Cache.after, Cache.replacedBy, Cache.update_of_ne heq]
      rw [hnew]
      refine ⟨by simp [h.length], fun a ha => ?_⟩
      obtain rfl | ha := List.mem_cons.1 ha
      · simp [← h.length]
      · have hplace := h.mem a (List.mem_cons_of_mem _ ha)
        exact (List.getElem?_append_left (List.getElem?_eq_some_iff.1 hplace).1).trans hplace
  | hold =>
    refine ⟨h.length, fun a ha => h.mem a ?_⟩
    change a ∈ x.cache :: (x.held ++ [x.cache]) at ha
    simpa [or_comm] using ha
  | _ => exact ⟨h.length, h.mem⟩

theorem Placed.run {x : SharedCache} (h : x.Placed) (uses : List Cache.Use) :
    (x.run uses).Placed := by
  induction uses generalizing x with
  | nil => exact h
  | cons u uses ih => exact ih (h.use u)

/-- Whatever is done with a cache: its template is the one of its own style, which is that of the
last update; an update replaces it exactly if it brings another style, and says so. A template that
was taken is still there, is the very template in effect exactly if nothing was replaced since, and
equals it whenever their styles are equal. A subscription reports a change exactly if something was
replaced since it was new or has last seen the template. Templates are told apart by their places
among all that were ever in effect. -/
theorem templates_run (style : Text) (uses : List Cache.Use) :
    let x := (ofStyle style).run uses
    (x.cache.template = Template.ofStyle x.cache.template.source ∧
      x.cache.template.source = (uses.filterMap Cache.Use.style?).getLast?.getD style) ∧
    (∀ s, ((x.cache.update s).2 = true ↔ s ≠ x.cache.template.source) ∧
      ((x.cache.update s).1.identical x.cache = true ↔ (x.cache.update s).2 = false)) ∧
    (∀ before since, uses = before ++ .hold :: since →
      let y := (ofStyle style).run before
      x.held[y.held.length]? = some y.cache ∧
      (y.cache.identical x.cache = true ↔ ¬ y.cache.Replaced since) ∧
      (y.cache.template.source = x.cache.template.source →
        y.cache.template = x.cache.template)) ∧
    (∀ before u since i, uses = before ++ u :: since →
      let y := (ofStyle style).run before
      y.CatchesUp i u → .see i ∉ since → ∃ s, x.subscriptions[i]? = some s ∧
        (x.cache.changedFor s = true ↔ y.cache.Replaced since)) ∧
    ∀ h ∈ x.cache :: x.held, x.installed[h.version]? = some h.template := by
  intro x
  have hcurrent : ∀ uses, ((ofStyle style).run uses).cache.template =
      Template.ofStyle ((uses.filterMap Cache.Use.style?).getLast?.getD style) := by
    intro uses
    rw [cache_run]
    exact Cache.template_through rfl uses
  have hsource : ∀ uses, ((ofStyle style).run uses).cache.template =
      Template.ofStyle ((ofStyle style).run uses).cache.template.source := by
    intro uses
    rw [hcurrent uses]
    rfl
  refine ⟨⟨hsource uses, by rw [hcurrent uses]; rfl⟩,
    fun s => ⟨x.cache.update_eq_true_iff s, x.cache.identical_update_iff s⟩, ?_, ?_,
    ((placed_ofStyle style).run uses).mem⟩
  · rintro before since rfl y
    have hx : x = (y.use .hold).run since := run_split _ before .hold since
    have hcache : x.cache = y.cache.through since := by
      rw [hx, cache_run]
      rfl
    refine ⟨?_, ?_, fun heq => ?_⟩
    · obtain ⟨later, hheld⟩ := held_run (y.use .hold) since
      have hlist : x.held = y.held ++ y.cache :: later := by
        rw [hx, ← hheld]
        exact List.append_assoc y.held [y.cache] later
      rw [hlist, List.getElem?_append_right (Nat.le_refl _), Nat.sub_self]
      rfl
    · rw [Cache.identical, beq_iff_eq, hcache]
      exact (y.cache.version_through since).2
    · rw [hsource before, hsource (before ++ .hold :: since), heq]
  · rintro before u since i rfl y hu hsee
    obtain ⟨hkept, hseen⟩ := hu.subscriptions
    have hx : x = (y.use u).run since := run_split _ before u since
    refine ⟨y.cache.subscribe, ?_, ?_⟩
    · rw [hx]
      exact subscriptions_run hseen hsee
    · have hcache : x.cache = y.cache.through since := by rw [hx, cache_run, hkept]
      rw [Cache.changedFor, bne_iff_ne, hcache, Ne, Cache.subscribe,
        (y.cache.version_through since).2, Classical.not_not]

/-- A style is changed, set again without effect, and changed back. -/
theorem templates_run_back :
    let a : Text := ['a']
    let b : Text := ['b', '|', 'c']
    let uses : List Cache.Use := [.hold, .subscribe, .update b, .see 0, .hold, .update b,
      .update a, .subscribe]
    let x := (ofStyle a).run uses
    x.cache.template = Template.ofStyle a ∧ x.held.map (·.template.source) = [a, b] ∧
      (∃ h, x.held[0]? = some h ∧ h.identical x.cache = false ∧ h.template = x.cache.template) ∧
      (∃ s, x.subscriptions[0]? = some s ∧ x.cache.changedFor s = true) ∧
      ∃ s, x.subscriptions[1]? = some s ∧ x.cache.changedFor s = false := by
  intro a b uses x
  obtain ⟨⟨hcurrent, hsource⟩, _, htaken, hseen, _⟩ := templates_run a uses
  have hback : (Cache.ofStyle a).Replaced uses.tail := .inr (.inl (by decide))
  obtain ⟨hheld, hsame, hequal⟩ := htaken [] uses.tail rfl
  obtain ⟨s, hs, hchanged⟩ := hseen (uses.take 3) (.see 0) (uses.drop 4) 0 rfl
    ⟨rfl, by decide⟩ (by simp [uses])
  obtain ⟨s', hs', hunchanged⟩ := hseen (uses.take 7) .subscribe [] 1 rfl rfl (by simp)
  refine ⟨by rw [hcurrent, hsource]; rfl, by decide +kernel,
    ⟨_, hheld, ?_, hequal (by rw [hsource]; rfl)⟩, ⟨s, hs, ?_⟩, ⟨s', hs', ?_⟩⟩
  · exact eq_false_of_ne_true fun h => hsame.1 h hback
  · exact hchanged.2 (.inr (.inr (.inl (by decide))))
  · exact eq_false_of_ne_true fun h => hunchanged.1 h

end SharedCache
end RadioText
