import StructEdit.Proofs.Menu.Flat
import StructEdit.Proofs.Session.Suggestions

/-!
# StructEdit.Proofs.Session.Matches

The menu of an autocompletion. It lists the constructs on offer in their order, and it
finds what an option inserts by the construct that the option shows: of the records of one
construct the last one counts (`IsLastOf`). Main statement: `Session.opened_menu_inserts`.
-/

namespace StructEdit

/-! ## What is bound to a construct -/

/-- The last of some records that has a construct. -/
def IsLastOf (construct : String) (records : List Insertion) (record : Insertion) : Prop :=
  record.construct = construct ∧ ∃ before after,
    records = before ++ record :: after ∧ ∀ r ∈ after, r.construct ≠ construct

/-- To a text the request of the last record with that construct is bound. -/
theorem insertActions_eq_some_iff {records : List Insertion} {text : String}
    {selection : Selection} : insertActions records text = some selection ↔
      ∃ record, IsLastOf text records record ∧ .insert record.request = selection := by
  simp only [insertActions, Option.map_eq_some_iff, List.find?_eq_some_iff_append, IsLastOf]
  refine exists_congr fun record => and_congr_left fun _ => ?_
  constructor
  · rintro ⟨htext, after, before, hrev, hafter⟩
    refine ⟨by simpa using htext, before.reverse, after.reverse, ?_, ?_⟩
    · rw [← List.reverse_reverse records, hrev]
      simp
    · simpa using hafter
  · rintro ⟨htext, before, after, rfl, hafter⟩
    refine ⟨by simpa using htext, after.reverse, before.reverse, by simp, ?_⟩
    simpa using hafter

/-- There is a last record of each construct. -/
theorem exists_isLastOf {records : List Insertion} {record : Insertion} (h : record ∈ records) :
    ∃ last, IsLastOf record.construct records last := by
  have hsome : (insertActions records record.construct).isSome = true := by
    simp only [insertActions, Option.isSome_map, List.find?_isSome]
    exact ⟨record, List.mem_reverse.2 h, by simp⟩
  obtain ⟨selection, hs⟩ := Option.isSome_iff_exists.1 hsome
  obtain ⟨last, hlast, _⟩ := insertActions_eq_some_iff.1 hs
  exact ⟨last, hlast⟩

theorem IsLastOf.mem {construct : String} {records : List Insertion} {record : Insertion}
    (h : IsLastOf construct records record) : record ∈ records := by
  obtain ⟨_, before, after, rfl, _⟩ := h
  simp

theorem insertActions_of_isLastOf {construct : String} {records : List Insertion}
    {last : Insertion} (h : IsLastOf construct records last) :
    insertActions records construct = some (.insert last.request) :=
  insertActions_eq_some_iff.2 ⟨last, h, rfl⟩

/-- Each record has the request of the last one of its construct just when records of one
construct have one request. -/
theorem request_isLastOf_iff {records : List Insertion} :
    (∀ r ∈ records, ∀ last, IsLastOf r.construct records last → last.request = r.request) ↔
      ∀ a ∈ records, ∀ b ∈ records, a.construct = b.construct → a.request = b.request := by
  constructor
  · intro h a ha b hb hab
    obtain ⟨last, hlast⟩ := exists_isLastOf ha
    rw [← h a ha last hlast, ← h b hb last (hab ▸ hlast)]
  · intro h r hr last hlast
    exact h last hlast.mem r hr hlast.1

namespace Session

variable {σ : Type} {s : Session σ}

/-! ## Selecting an insertion -/

/-- The session after the insertion of a request was selected in its menus: they are gone,
and if the request still comes to something, the executer was told. -/
def inserted (s : Session σ) (request : Request) : Session σ :=
  let bare : Session σ := { s with menu := s.menu.remove }
  let action := (s.route request s.context).fromSource s.menuSource
  if action.isIgnored then bare else (bare.execute ⟨action, s.context, none⟩).2

/-- Without menus an edit just tells the executer. -/
theorem edit_of_panel_eq_none (h : s.menu.panel = none) (call : Call) :
    s.edit call = s.execute call := by
  have hclosed : s.menu.isOpen = false := by
    rw [MenuController.isOpen, MenuController.panel_eq_none_iff.1 h, Option.any_none]
  simp [edit, hclosed]

/-- To carry out an insertion is to route it without menus and tell the executer what it comes to.
-/
theorem runSelection_insert (s : Session σ) (request : Request) :
    s.runSelection (.insert request) = s.inserted request := by
  have hselected : s.bare.selected? (.insert request) =
      if ((s.route request s.context).fromSource s.menuSource).isIgnored then none
      else some ((s.route request s.context).fromSource s.menuSource) := rfl
  by_cases hi : ((s.route request s.context).fromSource s.menuSource).isIgnored = true
  · rw [if_pos hi] at hselected
    rw [runSelection, hselected, inserted, if_pos hi]
    rfl
  · rw [if_neg hi] at hselected
    have hinsertion := isInsertion_of_selected? (by simp) hselected
    rw [runSelection, hselected, inserted, if_neg hi]
    dsimp only
    rw [dispatch_eq_edit_of_isInsertion hinsertion, edit_of_panel_eq_none rfl]
    rfl

/-- An action that selects inserts what is bound to the focused option. -/
theorem dispatch_select {request : Request} (h : s.menu.select.1 = some (.insert request))
    {call : Call} (hcall : call.action.intent = .selectMenuSuggestion) :
    s.dispatch call = (true, s.inserted request) := by
  rw [dispatch_of_selects hcall, selectOption_of_eq_some h, runSelection_insert]

/-- The menus of a session do not count for what it is after an insertion. -/
theorem inserted_withMenu {c : MenuController} (h : c.config = s.menu.config) (request : Request) :
    ({ s with menu := c } : Session σ).inserted request = s.inserted request := by
  rw [← runSelection_insert, runSelection_withMenu h, runSelection_insert]

/-! ## Options of one menu -/

variable {m : Menu} {index : Nat} {o : MenuOption} {request : Request}

/-- A key that selects inserts what is bound to the focused option. -/
theorem dispatch_option (h : s.menu.Shows m) (hi : s.menu.focusedOption? = some index)
    (ho : m.options[index]? = some o) (hs : o.target = .select (.insert request)) {call : Call}
    (hcall : call.action.intent = .selectMenuSuggestion) :
    s.dispatch call = (true, s.inserted request) :=
  dispatch_select (h.select hi ho hs) hcall

/-- A click inserts what is bound to the option. -/
theorem click_option (h : s.menu.Shows m) (ho : m.options[index]? = some o)
    (hs : o.target = .select (.insert request)) : s.click 0 index = (true, s.inserted request) := by
  obtain ⟨hfound, hshows, hfocused⟩ := h.focus (List.getElem?_eq_some_iff.1 ho).1
  have hlink : (((s.menu.focus 0 index).2.menu? 0).bind (·.options[index]?)).any (·.isLink) =
      false := by
    obtain ⟨n, o', hn, ho', htarget⟩ := hshows.exists_option ho
    have hchild : o'.child? = none := by simp [MenuOption.child?, htarget, hs]
    simp [hn, ho', MenuOption.isLink, hchild]
  have hconfig : (s.menu.focus 0 index).2.config = s.menu.config :=
    MenuCommand.config_run (.focus 0 index) s.menu
  have hselected : ({ s with menu := (s.menu.focus 0 index).2 } : Session σ).selectOption =
      s.inserted request := by
    rw [selectOption_of_eq_some (hshows.select hfocused ho hs), runSelection_insert,
      inserted_withMenu hconfig]
  rw [click, hover]
  dsimp only
  rw [hfound, hlink, hselected]
  rfl

/-- To select an option of the menu inserts a request, by a click, and by a key that selects
however the focus came to the option. -/
structure Selects (s : Session σ) (index : Nat) (request : Request) : Prop where
  click : s.click 0 index = (true, s.inserted request)
  dispatch : ∀ moves : List MenuCommand, (∀ move ∈ moves, move.isMove = true) →
    (MenuCommand.runAll moves s.menu).focusedOption? = some index →
    ∀ call : Call, call.action.intent = .selectMenuSuggestion →
      ({ s with menu := MenuCommand.runAll moves s.menu } : Session σ).dispatch call =
        (true, s.inserted request)

/-- An option of a menu without links inserts its request by a click and by a key. -/
theorem selects_option (h : s.menu.Shows m) (hflat : m.IsFlat) (ho : m.options[index]? = some o)
    (hs : o.target = .select (.insert request)) : s.Selects index request where
  click := click_option h ho hs
  dispatch moves hmoves hi call hcall := by
    rw [← inserted_withMenu (MenuCommand.config_runAll moves s.menu)]
    exact dispatch_option (h.runAll hflat hmoves) hi ho hs hcall

/-! ## The menu of an autocompletion -/

/-- The menu of the constructs on offer. -/
def matchMenu (s : Session σ) (records : List Insertion) (context : Context) : Menu :=
  MenuTree.plainMenu (insertActions records) s.menu.config.docs.find? (.ofPosition context.position)
    (records.map (·.construct))

/-- The option of a match has the request of the last match of its construct bound to it. -/
theorem options_matchMenu (s : Session σ) {records : List Insertion} (context : Context)
    {record last : Insertion} (hrecord : records[index]? = some record)
    (hlast : IsLastOf record.construct records last) :
    ∃ o, (s.matchMenu records context).options[index]? = some o ∧
      o.target = .select (.insert last.request) := by
  have htext : (records.map (·.construct))[index]? = some record.construct := by simp [hrecord]
  refine ⟨_, by rw [matchMenu, MenuTree.plainMenu, List.getElem?_map, htext, Option.map_some], ?_⟩
  rw [insertActions_of_isLastOf hlast, Option.getD_some]

variable {call : Call} {kind : AutocompleteKind} {first : Char} {pattern : String}
  {records : List Insertion}

/-- What is selected in the menu of matches is of autocompletion. -/
theorem menuSource_openAutocomplete
    (hcall : call.action.payload = some (.autocomplete kind first pattern records)) :
    (s.openAutocomplete call).2.menuSource = .autocomplete := by
  simp only [openAutocomplete, execute, hcall]

/-- The matches are shown in one menu. -/
theorem panel_openAutocomplete
    (hcall : call.action.payload = some (.autocomplete kind first pattern records))
    (hne : records ≠ []) : (s.openAutocomplete call).2.menu.panel =
      some (.ofTree (.single (s.matchMenu records call.context))) := by
  have hbound : ∀ text ∈ records.map (·.construct), (insertActions records text).isSome = true := by
    intro text htext
    obtain ⟨record, hrecord, rfl⟩ := List.mem_map.1 htext
    obtain ⟨last, hlast⟩ := exists_isLastOf hrecord
    rw [insertActions_of_isLastOf hlast, Option.isSome_some]
  simp only [openAutocomplete, execute, hcall]
  exact s.menu.panel_buildFlat_of_bound _ (by simpa using hne) hbound

/-- What the option of a match inserts is what the last match of its construct asks for. -/
theorem selects_openAutocomplete
    (hcall : call.action.payload = some (.autocomplete kind first pattern records))
    {record last : Insertion} (hrecord : records[index]? = some record)
    (hlast : IsLastOf record.construct records last) :
    (s.openAutocomplete call).2.Selects index last.request := by
  obtain ⟨o, ho, htarget⟩ := s.options_matchMenu call.context hrecord hlast
  have hne : records ≠ [] := List.ne_nil_of_mem (List.mem_of_getElem? hrecord)
  have hshows : (s.openAutocomplete call).2.menu.Shows (s.matchMenu records call.context) :=
    ⟨_, panel_openAutocomplete hcall hne, MenuPanel.shows_ofTree rfl⟩
  exact selects_option hshows (MenuTree.isFlat_plainMenu ..) ho htarget

/-- The menu that opens for some matches has an option for each of them, in their order,
and inserts by an option the request of the last match with the construct that it shows. So
each option has the request of its own match bound to it just when matches of one construct
have one request. -/
theorem opened_menu_inserts (s : Session σ) (kind : AutocompleteKind) (first : Char)
    (pattern : String) (record : Insertion) (others : List Insertion) (source : Source)
    (context : Context) (key : Option Key) :
    let records := record :: others
    let t := (s.dispatch ⟨⟨.openAutocomplete, some (.autocomplete kind first pattern records),
      source⟩, context, key⟩).2
    t.menuSource = .autocomplete ∧ ∃ m : Menu, t.menu.menus = [0] ∧ t.menu.menu? 0 = some m ∧
      m.isOpen = true ∧ m.options.map (·.text) = records.map (·.construct) ∧
      (∀ i r, records[i]? = some r → ∃ last, IsLastOf r.construct records last ∧
        m.selectionAt? i = some (.insert last.request) ∧ t.Selects i last.request) ∧
      ((∀ i r, records[i]? = some r → m.selectionAt? i = some (.insert r.request)) ↔
        ∀ a ∈ records, ∀ b ∈ records, a.construct = b.construct → a.request = b.request) := by
  intro records t
  let call : Call := ⟨⟨.openAutocomplete, some (.autocomplete kind first pattern records), source⟩,
    context, key⟩
  have hcall : call.action.payload = some (.autocomplete kind first pattern records) := rfl
  have ht : t = (s.openAutocomplete call).2 := congrArg Prod.snd (dispatch_openAutocomplete rfl)
  have hpanel : t.menu.panel = some (.ofTree (.single (s.matchMenu records context))) :=
    ht ▸ panel_openAutocomplete hcall (List.cons_ne_nil record others)
  have hbound : ∀ i r, records[i]? = some r → ∀ last, IsLastOf r.construct records last →
      (s.matchMenu records context).opened.selectionAt? i = some (.insert last.request) := by
    intro i r hr last hlast
    obtain ⟨o, ho, htarget⟩ := s.options_matchMenu context hr hlast
    simp [Menu.selectionAt?, Menu.opened, ho, MenuOption.selection?, htarget]
  refine ⟨ht ▸ menuSource_openAutocomplete hcall, (s.matchMenu records context).opened,
    ?_, ?_, rfl, ?_, fun i r hr => ?_, ?_⟩
  · rw [MenuController.menus_of_panel hpanel]
    exact MenuTree.preorder_single rfl
  · rw [MenuController.menu?_of_panel hpanel]
    rfl
  · simp [matchMenu, MenuTree.plainMenu, Menu.opened]
  · obtain ⟨last, hlast⟩ := exists_isLastOf (List.mem_of_getElem? hr)
    exact ⟨last, hlast, hbound i r hr last hlast, ht ▸ selects_openAutocomplete hcall hr hlast⟩
  -- what an option has bound to it is the request of the last match, so it is its own just when
  -- the two are the same request
  · rw [← request_isLastOf_iff]
    constructor
    · intro hown r hr last hlast
      obtain ⟨i, hi⟩ := List.mem_iff_getElem?.1 hr
      simpa using (hbound i r hi last hlast).symm.trans (hown i r hi)
    · intro hlasts i r hr
      obtain ⟨last, hlast⟩ := exists_isLastOf (List.mem_of_getElem? hr)
      rw [← hlasts r (List.mem_of_getElem? hr) last hlast]
      exact hbound i r hr last hlast

/-- Of two matches that are both shown as `-` the first one is for a difference, but its
option inserts a negation. -/
theorem first_match_inserts_negation :
    let difference : Insertion :=
      ⟨"-", "-", { kind := .binaryExpr, construct := "-", operator := some .subtract }, .valid⟩
    let negation : Insertion :=
      ⟨"-", "-", { kind := .unaryExpr, construct := "-", operator := some .subtract }, .valid⟩
    let script : Script := { holds := Script.holding [.atRightOfExpression, .atLeftOfExpression] }
    let s := Session.ofConfig {} (.scripted true) script
    let t := (s.dispatch ⟨⟨.openAutocomplete, some (.autocomplete .rightOfExpression '-' ""
      [difference, negation]), .keyboard⟩, s.context, none⟩).2
    (t.route difference.request t.context).fromSource .autocomplete =
        ⟨.insertBinaryOperator, some (.binaryOperator .subtract .toRight), .autocomplete⟩ ∧
      (t.click 0 0).2.log.getLast?.map (·.action) =
        some ⟨.insertUnaryOperator, some (.unaryOperator .subtract .wrap), .autocomplete⟩ := by
  intro difference negation script s t
  have ht : t = (s.openAutocomplete ⟨⟨.openAutocomplete, some (.autocomplete .rightOfExpression
      '-' "" [difference, negation]), .keyboard⟩, s.context, none⟩).2 :=
    congrArg Prod.snd (dispatch_openAutocomplete rfl)
  have hfirst : [difference, negation][0]? = some difference := rfl
  have hlast : IsLastOf difference.construct [difference, negation] negation :=
    ⟨rfl, [difference], [], rfl, by simp⟩
  have hclick : t.click 0 0 = (true, t.inserted negation.request) :=
    ht ▸ (selects_openAutocomplete rfl hfirst hlast).click
  rw [hclick, ht]
  exact ⟨rfl, rfl⟩

end Session

end StructEdit
