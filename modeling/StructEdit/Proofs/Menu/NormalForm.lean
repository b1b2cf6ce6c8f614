import StructEdit.Proofs.Menu.Building
import StructEdit.Proofs.Menu.Collapsing

/-!
# StructEdit.Proofs.Menu.NormalForm

The normal form of a tree of menus. After the collapse no menu can take over another one
(`Rooted.absorb?_collapse`), so a second collapse changes nothing. The collapse is what a
recursion comes to that works on a menu again after each step and then goes down to its
children (`Collapses`): a step changes menus at or below the one it is done on only
(`Inside`), so it leaves the walk through the other menus what it was. Main statement:
`collapse_of_build?`.
-/

namespace StructEdit

namespace MenuTree

variable {t u v : MenuTree} {id c : MenuId} {m n : Menu}

/-! ## No menu can take over another one -/

theorem absorb?_eq_none_of_get?_eq_none (h : t.get? id = none) : t.absorb? id = none := by
  simp [absorb?, h]

/-- A menu can take over another one just when it has one option and one child, and the
child is there. -/
theorem absorb?_eq_none_iff (hm : t.get? id = some m) :
    t.absorb? id = none ↔
      ∀ o c, m.options = [o] → m.children = [c] → t.get? c = none := by
  simp only [absorb?, hm]
  split
  · next o c ho hc => simp [ho, hc]
  · next hne =>
    refine iff_of_true rfl fun o c ho hc => absurd hc (hne o c ho)

theorem Absorbed.get?_eq_none (h : t.Absorbed id c m n u) {x : MenuId} (hx : t.get? x = none) :
    u.get? x = none := by
  have hne : x ≠ id := by
    rintro rfl
    rw [h.menu] at hx
    contradiction
  rw [h.get?, if_neg hne, hx]
  simp

/-- A menu that cannot take over another one cannot do so after a step on another menu. -/
theorem Absorbed.absorb?_eq_none (h : t.Absorbed id c m n u) {x : MenuId}
    (hx : t.absorb? x = none) : u.absorb? x = none := by
  cases hk : u.get? x with
  | none => exact absorb?_eq_none_of_get?_eq_none hk
  | some k =>
    rw [absorb?_eq_none_iff hk]
    intro o d ho hd
    obtain ⟨_, ⟨rfl, _⟩ | ⟨_, g, hg, hoptions, hchildren, _⟩⟩ := h.exists_menu hk
    · obtain ⟨o', ho'⟩ := h.options
      have hgone := (absorb?_eq_none_iff h.menu).1 hx o' c ho' h.children
      rw [h.child] at hgone
      contradiction
    · exact h.get?_eq_none ((absorb?_eq_none_iff hg).1 hx o d (hoptions ▸ ho) (hchildren ▸ hd))

namespace Rooted

theorem absorbAll (h : t.Rooted) (id : MenuId) : (t.absorbAll id).Rooted := by
  refine absorbAll_induction (fun t u id ht hu => ?_) h id
  obtain ⟨c, m, n, ha⟩ := ht.exists_absorbed hu
  exact ha.rooted ht

theorem absorb?_absorbAll_of_none (h : t.Rooted) {x : MenuId} (hx : t.absorb? x = none)
    (id : MenuId) : (t.absorbAll id).absorb? x = none := by
  refine (absorbAll_induction (motive := fun t => t.Rooted ∧ t.absorb? x = none)
    (fun t u id ht hu => ?_) ⟨h, hx⟩ id).2
  obtain ⟨c, m, n, ha⟩ := ht.1.exists_absorbed hu
  exact ⟨ha.rooted ht.1, ha.absorb?_eq_none ht.2⟩

/-- Of the menus that were worked on, none can take over another one. -/
theorem absorb?_foldl_absorbAll (h : t.Rooted) {ids : List MenuId} {x : MenuId}
    (hx : x ∈ ids ∨ t.absorb? x = none) : (ids.foldl MenuTree.absorbAll t).absorb? x = none := by
  induction ids generalizing t with
  | nil => simpa using hx
  | cons id ids ih =>
    refine ih (h.absorbAll id) ?_
    by_cases heq : x = id
    · exact .inr (heq ▸ t.absorb?_absorbAll id)
    · rcases hx with hx | hx
      · exact .inl ((List.mem_cons.1 hx).resolve_left heq)
      · exact .inr (h.absorb?_absorbAll_of_none hx id)

/-- After the collapse no menu can take over another one. -/
theorem absorb?_collapse (h : t.Rooted) (x : MenuId) : t.collapse.absorb? x = none := by
  refine h.absorb?_foldl_absorbAll ?_
  cases hx : t.get? x with
  | none => exact .inr (absorb?_eq_none_of_get?_eq_none hx)
  | some k => exact .inl (h.mem_preorder_iff.2 ⟨k, hx⟩)

theorem collapse_collapse (h : t.Rooted) : t.collapse.collapse = t.collapse :=
  collapse_eq_self fun id _ => h.absorb?_collapse id

end Rooted

/-- A menu that cannot take over another one does not have a link for its only option. -/
theorem WellFormed.child?_eq_none (h : t.WellFormed) (hm : t.get? id = some m)
    (hnone : t.absorb? id = none) {o : MenuOption} (ho : m.options = [o]) : o.child? = none := by
  cases hc : o.child? with
  | none => rfl
  | some c =>
    have hchildren : m.children = [c] := by simp [h.children_eq id m hm, ho, hc]
    have hchild : t.IsChild id c := isChild_of_get? hm (by simp [hchildren])
    obtain ⟨k, hk, _⟩ := h.parent_of_child hchild
    rw [(absorb?_eq_none_iff hm).1 hnone o c ho hchildren] at hk
    contradiction

/-! ## The recursion -/

/-- Working on menus one after the other, by a recursion that leads from a tree to another
one. A menu that took over another one is worked on again; any other one is left as it is,
and then what are its children by then are worked on. There is no such tree when the
recursion does not end. -/
inductive Collapses : MenuTree → List MenuId → MenuTree → Prop where
  | done (t : MenuTree) : Collapses t [] t
  | skip {t u : MenuTree} {id : MenuId} {ids : List MenuId} (dropped : t.get? id = none)
      (rest : Collapses t ids u) : Collapses t (id :: ids) u
  | again {t u v w : MenuTree} {id : MenuId} {ids : List MenuId} (absorbed : t.absorb? id = some v)
      (again : Collapses v [id] w) (rest : Collapses w ids u) : Collapses t (id :: ids) u
  | descend {t u w : MenuTree} {id : MenuId} {ids : List MenuId} {m : Menu}
      (live : t.get? id = some m) (kept : t.absorb? id = none) (below : Collapses t m.children w)
      (rest : Collapses w ids u) : Collapses t (id :: ids) u

namespace Collapses

variable {ids : List MenuId}

/-- The recursion leads to one tree only. -/
theorem unique (hu : t.Collapses ids u) (hv : t.Collapses ids v) : u = v := by
  induction hu generalizing v with
  | done => cases hv; rfl
  | skip dropped _ ih =>
    cases hv with
    | skip _ rest => exact ih rest
    | again absorbed => simp [absorb?_eq_none_of_get?_eq_none dropped] at absorbed
    | descend live => simp [dropped] at live
  | again absorbed _ _ ihagain ih =>
    cases hv with
    | skip dropped => simp [absorb?_eq_none_of_get?_eq_none dropped] at absorbed
    | again absorbed' again rest =>
      obtain rfl := Option.some.inj (absorbed.symm.trans absorbed')
      obtain rfl := ihagain again
      exact ih rest
    | descend _ kept => simp [kept] at absorbed
  | descend live kept _ _ ihbelow ih =>
    cases hv with
    | skip dropped => simp [dropped] at live
    | again absorbed => simp [kept] at absorbed
    | descend live' _ below rest =>
      obtain rfl := Option.some.inj (live.symm.trans live')
      obtain rfl := ihbelow below
      exact ih rest

/-- Working on one menu and then on others. -/
theorem cons (hid : t.Collapses [id] v) (hids : v.Collapses ids u) : t.Collapses (id :: ids) u := by
  cases hid with
  | skip dropped rest => cases rest; exact .skip dropped hids
  | again absorbed again rest => cases rest; exact .again absorbed again hids
  | descend live kept below rest => cases rest; exact .descend live kept below hids

end Collapses

/-! ## What a step leaves as it is -/

/-- A rooted tree that comes from another one by changes to menus of a part `D` only, out of
which no child leads. -/
structure Inside (D : MenuId → Prop) (t u : MenuTree) : Prop where
  rooted : u.Rooted
  slots : u.slots.length = t.slots.length
  closed : ∀ p x, D p → u.IsChild p x → D x
  get? : ∀ x, ¬ D x → u.get? x = t.get? x

namespace Inside

variable {D : MenuId → Prop}

theorem of_below (h : t.Rooted) (id : MenuId) : t.Inside (t.Below id) t where
  rooted := h
  slots := rfl
  closed _ _ hp hx := hp.tail hx
  get? _ _ := rfl

theorem below (h : t.Inside D u) (hid : D id) {x : MenuId} (hx : u.Below id x) : D x := by
  induction hx with
  | refl => exact hid
  | tail _ hc ih => exact h.closed _ _ ih hc

theorem absorb? (h : t.Inside D u) (hid : D id) (hv : u.absorb? id = some v) : t.Inside D v := by
  obtain ⟨c, m, n, ha⟩ := h.rooted.exists_absorbed hv
  have hc : D c := h.closed id c hid ha.isChild
  refine ⟨ha.rooted h.rooted, ha.slots.trans h.slots, fun p x hp hx => ?_, fun x hx => ?_⟩
  · obtain ⟨_, hx⟩ := ha.isChild_iff.1 hx
    split at hx
    · exact h.closed c x hc hx
    · exact h.closed p x hp hx
  · have hxc : x ≠ c := fun heq => hx (heq ▸ hc)
    have hxid : x ≠ id := fun heq => hx (heq ▸ hid)
    have hxn : x ∉ n.children := fun hn => hx (h.closed c x hc (ha.mem_children_iff.1 hn))
    rw [ha.get?, if_neg hxc, if_neg hxid, if_neg hxn, h.get? x hx]

theorem absorbAll (h : t.Inside D u) (hid : D id) : t.Inside D (u.absorbAll id) := by
  fun_induction MenuTree.absorbAll u id with
  | case1 u _ => exact h
  | case2 u v hv ih => exact ih (h.absorb? hid hv)

theorem foldl_absorbAll (h : t.Inside D u) {ids : List MenuId} (hids : ∀ id ∈ ids, D id) :
    t.Inside D (ids.foldl MenuTree.absorbAll u) := by
  induction ids generalizing u with
  | nil => exact h
  | cons id ids ih =>
    rw [List.forall_mem_cons] at hids
    exact ih (h.absorbAll hids.1) hids.2

end Inside

/-! ## The walk from a menu -/

/-- The menus at or below a menu, each before those below it. -/
def walkFrom (t : MenuTree) (id : MenuId) : List MenuId :=
  t.reach (fun _ => true) t.slots.length id

/-- The tree after the menus at or below one of them were worked on. -/
def collapseFrom (t : MenuTree) (id : MenuId) : MenuTree :=
  (t.walkFrom id).foldl absorbAll t

theorem Rooted.walkFrom_eq (h : t.Rooted) (hm : t.get? id = some m) :
    t.walkFrom id = id :: m.children.flatMap t.walkFrom := by
  rw [walkFrom, h.reach_slots _ (h.below_root id m hm) hm, if_pos rfl]
  rfl

theorem Rooted.mem_walkFrom_iff (h : t.Rooted) (hm : t.get? id = some m) {x : MenuId} :
    x ∈ t.walkFrom id ↔ t.Below id x :=
  h.mem_reach_iff (h.below_root id m hm)

/-- In another tree the menus at or below a menu are there, or not, with the same children. -/
def SameBelow (t u : MenuTree) (id : MenuId) : Prop :=
  ∀ x, t.Below id x → (u.get? x).map (·.children) = (t.get? x).map (·.children)

namespace SameBelow

theorem isChild_iff (h : t.SameBelow u id) {p x : MenuId} (hp : t.Below id p) :
    u.IsChild p x ↔ t.IsChild p x := by
  have hsame := h p hp
  unfold IsChild MenuTree.children
  cases hu : u.get? p <;> cases ht : t.get? p <;> simp_all

theorem below_iff (h : t.SameBelow u id) {x : MenuId} : u.Below id x ↔ t.Below id x := by
  constructor
  · intro hx
    induction hx with
    | refl => exact .refl
    | tail _ hc ih => exact ih.tail ((h.isChild_iff ih).1 hc)
  · intro hx
    induction hx with
    | refl => exact .refl
    | tail hp hc ih => exact ih.tail ((h.isChild_iff hp).2 hc)

theorem weight_eq (h : t.SameBelow u id) : u.weight id = t.weight id := by
  simp only [weight, h.below_iff]

theorem reach_eq (h : t.SameBelow u id) (depth : Nat) :
    u.reach (fun _ => true) depth id = t.reach (fun _ => true) depth id := by
  induction depth generalizing id with
  | zero => rfl
  | succ depth ih =>
    have hsame := h id .refl
    cases ht : t.get? id with
    | none =>
      have hu : u.get? id = none := by simpa [ht] using hsame
      simp only [reach, ht, hu]
    | some m =>
      rw [ht] at hsame
      obtain ⟨k, hk, hchildren⟩ := Option.map_eq_some_iff.1 hsame
      have hkids : m.children.flatMap (u.reach (fun _ => true) depth) =
          m.children.flatMap (t.reach (fun _ => true) depth) :=
        List.flatMap_congr fun c hc => ih fun x hx => h x (.head (isChild_of_get? ht hc) hx)
      simp only [reach, ht, hk, hchildren, hkids]

theorem walkFrom_eq (h : t.SameBelow u id) (hs : u.slots.length = t.slots.length) :
    u.walkFrom id = t.walkFrom id := by
  rw [walkFrom, hs, h.reach_eq, walkFrom]

end SameBelow

/-! ## The recursion comes to the collapse -/

namespace Absorbed

/-- A step leaves the menus below the one that is gone what they were, up to parents. -/
theorem sameBelow (h : t.Absorbed id c m n u) (ht : t.Rooted) {x : MenuId}
    (hx : x ∈ n.children) : t.SameBelow u x := by
  intro y hy
  have hid := ht.below_root id m h.menu
  have hcx := h.mem_children_iff.1 hx
  have hyc : y ≠ c := by
    rintro rfl
    exact ht.not_below_parent (hid.tail h.isChild) hcx hy
  have hyid : y ≠ id := by
    rintro rfl
    exact ht.not_below_parent hid h.isChild (.head hcx hy)
  rw [h.get?, if_neg hyc, if_neg hyid]
  split
  · simp [Function.comp_def]
  · rfl

theorem weight_lt (h : t.Absorbed id c m n u) (ht : t.Rooted) (hu : t.absorb? id = some u) :
    u.weight id < t.weight id := by
  have hid := ht.below_root id m h.menu
  have hinside := (Inside.of_below ht id).absorb? .refl hu
  refine Set.ncard_lt_ncard ⟨fun x hx => hinside.below .refl hx, fun hs => ?_⟩
    (ht.finite_below hid)
  have hc : u.Below id c := hs (.single h.isChild)
  rcases Relation.ReflTransGen.cases_tail hc with heq | ⟨p, _, hp⟩
  · exact h.ne ht heq.symm
  · obtain ⟨k, hk, _⟩ := (h.rooted ht).parent_of_child hp
    rw [h.get?, if_pos rfl] at hk
    contradiction

/-- Working on the menus at or below one of them starts with the steps on that menu, and
those that are gone by then are passed over. -/
theorem collapseFrom_eq (h : t.Absorbed id c m n u) (ht : t.Rooted) (hu : t.absorb? id = some u) :
    u.collapseFrom id = t.collapseFrom id := by
  have htake : u.get? id = some (m.takeOver n) := by
    rw [h.get?, if_neg (h.ne ht), if_pos rfl]
  have hrest : n.children.flatMap u.walkFrom = n.children.flatMap t.walkFrom :=
    List.flatMap_congr fun x hx => (h.sameBelow ht hx).walkFrom_eq h.slots
  have hwalk : u.walkFrom id = id :: n.children.flatMap t.walkFrom := by
    rw [(h.rooted ht).walkFrom_eq htake, ← hrest]
    rfl
  have hwalk' : t.walkFrom id = id :: c :: n.children.flatMap t.walkFrom := by
    rw [ht.walkFrom_eq h.menu, h.children, List.flatMap_singleton, ht.walkFrom_eq h.child]
  have hsteps : t.absorbAll id = u.absorbAll id := by
    rw [absorbAll]
    split
    · next hnone => simp [hu] at hnone
    · next v hv => rw [Option.some.inj (hu.symm.trans hv)]
  -- the walk comes upon the child too, which is gone by then and is passed over
  have hgone : (u.absorbAll id).absorb? c = none := by
    refine (h.rooted ht).absorb?_absorbAll_of_none (absorb?_eq_none_of_get?_eq_none ?_) id
    rw [h.get?, if_pos rfl]
  rw [collapseFrom, collapseFrom, hwalk, hwalk', List.foldl_cons, List.foldl_cons, List.foldl_cons,
    hsteps, absorbAll_eq_self hgone]

end Absorbed

namespace Rooted

/-- Working on children of a menu one after the other, from a tree in which what is at or
below them is what it was. -/
theorem collapses_children (h : t.Rooted) (hid : t.Below t.root id)
    (ih : ∀ (s : MenuTree) (c : MenuId) (k : Menu), s.Rooted → s.get? c = some k →
      s.weight c < t.weight id → s.Collapses [c] (s.collapseFrom c))
    {cs : List MenuId} (hnd : cs.Nodup) (hcs : ∀ c ∈ cs, t.IsChild id c) {s : MenuTree}
    (hs : s.Rooted) (hslots : s.slots.length = t.slots.length)
    (hsame : ∀ c ∈ cs, ∀ x, t.Below c x → s.get? x = t.get? x) :
    s.Collapses cs ((cs.flatMap t.walkFrom).foldl MenuTree.absorbAll s) := by
  induction cs generalizing s with
  | nil => exact .done s
  | cons c cs ihcs =>
    rw [List.nodup_cons] at hnd
    rw [List.forall_mem_cons] at hcs hsame
    obtain ⟨k, hk, _⟩ := h.parent_of_child hcs.1
    have hsk : s.get? c = some k := (hsame.1 c .refl).trans hk
    have hbelow : t.SameBelow s c := fun x hx => by rw [hsame.1 x hx]
    have hfirst := ih s c k hs hsk (hbelow.weight_eq ▸ h.weight_lt hid hcs.1)
    have hinside : s.Inside (s.Below c) (s.collapseFrom c) :=
      (Inside.of_below hs c).foldl_absorbAll fun x hx => (hs.mem_walkFrom_iff hsk).1 hx
    rw [List.flatMap_cons, List.foldl_append, ← hbelow.walkFrom_eq hslots]
    -- work on one child stays at or below it, and what is below two children is not the same
    refine hfirst.cons (ihcs hnd.2 hcs.2 hinside.rooted (hinside.slots.trans hslots) ?_)
    intro d hd x hx
    rw [← hsame.2 d hd x hx]
    refine hinside.get? x fun hcx => hnd.1 ?_
    rw [h.eq_of_below_both hid hcs.1 (hcs.2 d hd) (hbelow.below_iff.1 hcx) hx]
    exact hd

/-- The recursion on a menu ends, and comes to what working on the menus at or below it
comes to. -/
theorem collapses_collapseFrom (h : t.Rooted) (hm : t.get? id = some m) :
    t.Collapses [id] (t.collapseFrom id) := by
  induction hw : t.weight id using Nat.strong_induction_on generalizing t id m with
  | _ w ih =>
    cases habsorb : t.absorb? id with
    | none =>
      have hkids : t.collapseFrom id =
          (m.children.flatMap t.walkFrom).foldl MenuTree.absorbAll t := by
        rw [collapseFrom, h.walkFrom_eq hm, List.foldl_cons, absorbAll_eq_self habsorb]
      rw [hkids]
      refine .descend hm habsorb ?_ (.done _)
      refine h.collapses_children (h.below_root id m hm) ?_
        (children_of_get? hm ▸ h.nodup_children id) (fun c hc => isChild_of_get? hm hc) h rfl
        fun _ _ _ _ => rfl
      exact fun s c k hs hk hlt => ih _ (hw ▸ hlt) hs hk rfl
    | some v =>
      obtain ⟨c, k, n, ha⟩ := h.exists_absorbed habsorb
      have htake : v.get? id = some (k.takeOver n) := by
        rw [ha.get?, if_neg (ha.ne h), if_pos rfl]
      -- a step makes what is at or below the menu lighter, so the same menu can be gone on with
      have hagain := ih _ (hw ▸ ha.weight_lt h habsorb) (ha.rooted h) htake rfl
      rw [ha.collapseFrom_eq h habsorb] at hagain
      exact .again habsorb hagain (.done _)

/-- The recursion from the root ends, and comes to the collapse. -/
theorem collapses_iff (h : t.Rooted) : t.Collapses [t.root] u ↔ u = t.collapse := by
  obtain ⟨m, hm⟩ := h.root_live
  have hcollapse : t.Collapses [t.root] t.collapse := h.collapses_collapseFrom hm
  exact ⟨fun hu => hu.unique hcollapse, fun heq => heq ▸ hcollapse⟩

end Rooted

/-- In a tree that is built out of entries without repeated keys, whatever menus are open,
whatever links are remembered and whatever options are highlighted, the recursion ends with
the collapse, leaves no menu with a link for its only option, and changes nothing when it is
done again. -/
theorem collapse_of_build? {entries : List (String × List String)} {rootKey : String}
    {actions : String → Option Selection} {docs : String → Option String} {anchor : Anchor}
    (hk : (entries.map (·.1)).Nodup)
    (ht : build? entries rootKey actions docs anchor = some t) (hb : u.bare = t.bare) :
    (∀ v, u.Collapses [u.root] v ↔ v = u.collapse) ∧
      (∀ id m o, u.collapse.get? id = some m → m.options = [o] → o.child? = none) ∧
      (∀ v, u.collapse.Collapses [u.collapse.root] v ↔ v = u.collapse) ∧
      u.collapse.collapse = u.collapse := by
  have hu : u.WellFormed := (wellFormed_of_build? hk ht).of_bare_eq hb
  have hagain : u.collapse.collapse = u.collapse := hu.collapse_collapse
  refine ⟨fun v => hu.collapses_iff, fun id m o hm ho => ?_, fun v => ?_, hagain⟩
  · exact hu.collapse.child?_eq_none hm (hu.absorb?_collapse id) ho
  · rw [hu.collapse.collapses_iff, hagain]

/-- A chain of menus, with a menu open, a link of it remembered and highlighted. -/
theorem collapse_of_chain :
    let entries := [("Top", ["A"]), ("A", ["B"]), ("B", ["C", "x"]), ("C", ["y"])]
    (entries.map (·.1)).Nodup ∧ ∃ t u,
      build? entries "Top" (fun _ => none) (fun _ => none) ⟨0, 0⟩ = some t ∧
      u.bare = t.bare ∧ u ≠ t ∧ u.collapse ≠ u ∧ u.Collapses [u.root] u.collapse ∧
      u.collapse.collapse = u.collapse := by
  intro entries
  have hk : (entries.map (·.1)).Nodup := by decide
  let t := (build? entries "Top" (fun _ => none) (fun _ => none) ⟨0, 0⟩).get (by decide)
  have ht : build? entries "Top" (fun _ => none) (fun _ => none) ⟨0, 0⟩ = some t :=
    (Option.some_get _).symm
  let u := t.update 1 fun m => { m.opened.highlight 0 with openedLink := some 0 }
  have hb : u.bare = t.bare := bare_update t 1 fun m => by simp
  obtain ⟨hcollapses, _, _, hagain⟩ := collapse_of_build? hk ht hb
  have hchanged : u.collapse ≠ u := by
    intro heq
    have hnone := ((wellFormed_of_build? hk ht).of_bare_eq hb).absorb?_collapse 0
    rw [heq] at hnone
    exact absurd hnone (by decide)
  exact ⟨hk, t, u, ht, hb, by decide, hchanged, (hcollapses _).2 rfl, hagain⟩

end MenuTree

end StructEdit
