import Mathlib.Data.List.Infix
import PromptBudget.Proofs.ToolDocumentation

/-!
# PromptBudget — what two delimiters enclose

The tool documentation in a system message is to be what two delimiters enclose: it begins with all
of the start delimiter, and the end delimiter that comes next stays behind it.

The search for the end delimiter begins where the start delimiter does, not behind it. So an end
delimiter is found that overlaps the start delimiter, and what is moved then is less than the start
delimiter, perhaps nothing. This can happen exactly if the two delimiters are entangled, as two equal
ones are; no setting is refused for it.

Main results:

* `ToolDocs.encloses_of_documents` — delimiters that are not entangled enclose what is found.
* `ToolDocs.exists_documents_of_entangled` — entangled delimiters fail to do so in some text.
* `ToolDocs.movesEnclosed_iff` — usable settings move what is enclosed, whatever the conversation,
  exactly if their delimiters are not entangled.
* `ToolDocs.not_movesEnclosed` — two equal delimiters, of which nothing is moved.
-/

namespace PromptBudget

open Text

namespace ToolDocs

variable {settings : ToolDocsSettings} {text before part after : List Char}

-- ---------------------------------------------------------------------------
-- Delimiters and what they enclose
-- ---------------------------------------------------------------------------

/-- A part begins with all of the start delimiter and ends in front of the first end delimiter that
comes behind it. -/
def Encloses (settings : ToolDocsSettings) (part after : List Char) : Prop :=
  ∃ body, part = settings.start.toList ++ body ∧
    FirstOccurrence settings.stop.toList (body ++ after) body after

/-- An end delimiter can begin inside a start delimiter: of some end of the start delimiter and the
end delimiter, one begins with the other. -/
def Entangled (settings : ToolDocsSettings) : Prop :=
  ∃ back ∈ settings.start.toList.tails, back ≠ [] ∧
    (back <+: settings.stop.toList ∨ settings.stop.toList <+: back)

instance (settings : ToolDocsSettings) : Decidable (Entangled settings) :=
  inferInstanceAs (Decidable (∃ back ∈ settings.start.toList.tails, back ≠ [] ∧
    (back <+: settings.stop.toList ∨ settings.stop.toList <+: back)))

theorem Encloses.length_le (h : Encloses settings part after) :
    settings.start.toList.length ≤ part.length := by
  obtain ⟨body, rfl, -⟩ := h
  rw [List.length_append]
  exact Nat.le_add_right _ _

/-- A found part that is no shorter than the start delimiter begins with it, and is what the delimiters
enclose. -/
theorem encloses_of_length_le (h : Documents settings text before part after)
    (hlength : settings.start.toList.length ≤ part.length) : Encloses settings part after := by
  obtain ⟨hbefore, hpart⟩ := h
  obtain ⟨body, rfl⟩ :=
    List.prefix_of_prefix_length_le hbefore.starts (List.prefix_append part after) hlength
  refine ⟨body, rfl, rfl, hpart.starts, fun front back hsplit hstarts => ?_⟩
  have hfirst := hpart.first (settings.start.toList ++ front) back
    (by rw [List.append_assoc, List.append_assoc, hsplit]) hstarts
  rw [List.length_append, List.length_append] at hfirst
  omega

theorem encloses_of_documents (hclear : ¬ Entangled settings)
    (h : Documents settings text before part after) : Encloses settings part after := by
  by_contra hnot
  have hshort : part.length < settings.start.toList.length :=
    Nat.lt_of_not_le fun hlength => hnot (encloses_of_length_le h hlength)
  obtain ⟨hbefore, hpart⟩ := h
  -- what the part lacks of the start delimiter is behind it, and so is an end delimiter
  obtain ⟨back, hback⟩ :=
    List.prefix_of_prefix_length_le (List.prefix_append part after) hbefore.starts hshort.le
  have hstart : back <+: after := by
    have hstarts := hbefore.starts
    rwa [← hback, List.prefix_append_right_inj] at hstarts
  refine hclear ⟨back, (List.mem_tails _ _).2 ⟨part, hback⟩, ?_,
    List.prefix_or_prefix_of_prefix hstart hpart.starts⟩
  rintro rfl
  rw [← hback, List.append_nil] at hshort
  exact Nat.lt_irrefl _ hshort

/-- A text in which an end delimiter begins inside the start delimiter. -/
theorem exists_overlap (h : Entangled settings) :
    ∃ front rest, settings.start.toList <+: front ++ rest ∧ settings.stop.toList <+: rest ∧
      front.length < settings.start.toList.length := by
  obtain ⟨back, hmem, hne, hcomparable⟩ := h
  obtain ⟨front, hfront⟩ := (List.mem_tails _ _).1 hmem
  have hlength : front.length < settings.start.toList.length := by
    have hpos := List.length_pos_iff.2 hne
    rw [← hfront, List.length_append]
    omega
  rcases hcomparable with hback | hstop
  · refine ⟨front, settings.stop.toList, ?_, List.prefix_rfl, hlength⟩
    rwa [← hfront, List.prefix_append_right_inj]
  · exact ⟨front, back, hfront ▸ List.prefix_rfl, hstop, hlength⟩

theorem exists_documents_of_entangled (h : Entangled settings) :
    ∃ part after, Documents settings (part ++ after) [] part after ∧
      part.length < settings.start.toList.length := by
  obtain ⟨front, rest, hstart, hstop, hlength⟩ := exists_overlap h
  have hinfix : settings.stop.toList <:+: front ++ rest :=
    hstop.isInfix.trans (List.suffix_append front rest).isInfix
  obtain ⟨part, after, hpart⟩ := exists_firstOccurrence hinfix
  have hle := hpart.first front rest rfl hstop
  rw [hpart.append] at hstart hpart
  exact ⟨part, after, ⟨⟨rfl, hstart, fun _ _ _ _ => Nat.zero_le _⟩, hpart⟩, hle.trans_lt hlength⟩

-- ---------------------------------------------------------------------------
-- What is moved
-- ---------------------------------------------------------------------------

/-- From `c` to `d` a part of the system text is taken out and given to the last user message. -/
structure Takes (settings : ToolDocsSettings) (c : Conversation) (before part after : List Char)
    (d : Conversation) : Prop where
  text : c.systemMessage.text.toList = before ++ (part ++ after)
  moved : ∃ user given content, Teaches settings c.messages part given ∧
    Moved c before part after user given content d

/-- Whenever the stage says that it has moved documentation, it has moved what the two delimiters
enclose, and not nothing. -/
def MovesEnclosed (settings : ToolDocsSettings) : Prop :=
  ∀ c : Conversation, c.Reachable → ∀ context now,
    ((stage settings).run c context now).result = .ok true →
      ∃ before part after,
        Takes settings c before part after ((stage settings).run c context now).conversation ∧
        Encloses settings part after ∧ part ≠ []

variable {c d : Conversation}

/-- How much is taken out is seen on what is left. -/
theorem Takes.length_part (h : Takes settings c before part after d) :
    c.systemMessage.text.toList.length = d.systemMessage.text.toList.length + part.length := by
  obtain ⟨user, given, content, -, hmoved⟩ := h.moved
  have hleft : d.systemMessage.text.toList = before ++ after := by
    rw [hmoved.systemMessage]
    exact hmoved.text
  rw [h.text, hleft, List.length_append, List.length_append, List.length_append]
  omega

theorem takes_of_documents (hc : c.Reachable) {user : Message} (hlast : c.lastUser? = some user)
    (h : Documents settings c.systemMessage.text.toList before part after)
    (context : RequestContext) (now : Moment) :
    ((stage settings).run c context now).result = .ok true ∧
      Takes settings c before part after ((stage settings).run c context now).conversation := by
  obtain ⟨hok, content, hmoved⟩ := run_moves hc hlast h context now
  exact ⟨hok, h.1.append, user, _, content, teaches_iff.2 rfl, hmoved⟩

theorem exists_documents_of_ok (hc : c.Reachable) {context : RequestContext} {now : Moment}
    (h : ((stage settings).run c context now).result = .ok true) :
    (∃ before part after, Documents settings c.systemMessage.text.toList before part after) ∧
      ∃ user, c.lastUser? = some user := by
  by_cases hdocuments :
      ∃ before part after, Documents settings c.systemMessage.text.toList before part after
  · refine ⟨hdocuments, ?_⟩
    obtain ⟨before, part, after, hfound⟩ := hdocuments
    cases hlast : c.lastUser? with
    | some user => exact ⟨user, rfl⟩
    | none =>
      rw [run_of_no_user hc hlast hfound] at h
      cases h
  · rw [run_of_undocumented hdocuments] at h
    cases h

theorem movesEnclosed_of_not_entangled (hstart : settings.start.toList ≠ [])
    (hclear : ¬ Entangled settings) : MovesEnclosed settings := by
  intro c hc context now hok
  obtain ⟨⟨before, part, after, hdocuments⟩, user, hlast⟩ := exists_documents_of_ok hc hok
  have hencloses := encloses_of_documents hclear hdocuments
  refine ⟨before, part, after, (takes_of_documents hc hlast hdocuments context now).2, hencloses, ?_⟩
  have hpos := List.length_pos_iff.2 hstart
  exact List.length_pos_iff.1 (hpos.trans_le hencloses.length_le)

theorem not_movesEnclosed_of_entangled (h : Entangled settings) : ¬ MovesEnclosed settings := by
  obtain ⟨part, after, hdocuments, hshort⟩ := exists_documents_of_entangled h
  obtain ⟨c, hc⟩ : ∃ c, Conversation.ofMessages?
      [.system (.plain (String.ofList (part ++ after))), .user (.plain "")] 1 = .ok c := ⟨_, rfl⟩
  have htext : c.systemMessage.text.toList = part ++ after := by
    obtain rfl := Except.ok.inj hc
    exact String.toList_ofList
  have hlast : c.lastUser? = some (.user (.plain "")) := by
    obtain rfl := Except.ok.inj hc
    rfl
  rw [← htext] at hdocuments
  obtain ⟨hok, htakes⟩ := takes_of_documents (.fresh hc) hlast hdocuments {} 0
  intro hmoves
  obtain ⟨before', part', after', htakes', hencloses, -⟩ := hmoves c (.fresh hc) {} 0 hok
  -- whatever else could be read as moved is as short
  have hlength := htakes.length_part
  have hlength' := htakes'.length_part
  have hle := hencloses.length_le
  omega

theorem start_ne_nil_of_validate {s : Settings} (hs : s.validate = .ok s) :
    s.toolDocs.start.toList ≠ [] := by
  intro hnil
  have hempty : s.toolDocs.start.isEmpty = true :=
    String.isEmpty_iff.2 (String.toList_eq_nil_iff.1 hnil)
  have hfault : s.fault? ≠ none := by
    simp only [Settings.fault?, hempty, Bool.true_or, if_true]
    split_ifs <;> exact Option.some_ne_none _
  cases h : s.fault? with
  | none => exact hfault h
  | some fault =>
    rw [Settings.validate, h] at hs
    cases hs

/-- Usable settings move what is enclosed, whatever the conversation, exactly if their delimiters are
not entangled. -/
theorem movesEnclosed_iff {s : Settings} (hs : s.validate = .ok s) :
    MovesEnclosed s.toolDocs ↔ ¬ Entangled s.toolDocs :=
  ⟨fun hmoves hentangled => not_movesEnclosed_of_entangled hentangled hmoves,
    movesEnclosed_of_not_entangled (start_ne_nil_of_validate hs)⟩

/-- The usual delimiters are not entangled. -/
theorem movesEnclosed_iff_default :
    ({} : Settings).validate = .ok {} ∧ MovesEnclosed ({} : Settings).toolDocs := by
  have hvalid : ({} : Settings).validate = .ok {} := by
    rw [Settings.validate, Settings.fault?_default]
  exact ⟨hvalid, (movesEnclosed_iff hvalid).2 (by decide)⟩

/-- With two equal delimiters, which are not refused, the stage says that it has moved something,
and has moved nothing: the search for the end delimiter finds the start delimiter. -/
theorem not_movesEnclosed :
    let s : Settings := { toolDocs := { start := "==", stop := "==" } }
    let system : Message := .system (.plain "Hi ==docs== bye")
    s.validate = .ok s ∧ ¬ MovesEnclosed s.toolDocs ∧
    ∃ c, Conversation.ofMessages? [system, .user (.plain "Go")] 1 = .ok c ∧ c.Reachable ∧
      ((stage s.toolDocs).run c {} 0).result = .ok true ∧
      ((stage s.toolDocs).run c {} 0).conversation.messages = [system, .user (.blocks [
        .ofText "Go", .ephemeral "<tool_description>\n</tool_description>"])] := by
  intro s system
  have hvalid : s.validate = .ok s := by
    have hfault : s.fault? = none := by decide +kernel
    rw [Settings.validate, hfault]
  obtain ⟨c, hc⟩ : ∃ c, Conversation.ofMessages? [system, .user (.plain "Go")] 1 = .ok c := ⟨_, rfl⟩
  have hok : ((stage s.toolDocs).run c {} 0).result = .ok true := by
    obtain rfl := Except.ok.inj hc
    decide
  refine ⟨hvalid, fun hmoves => ?_, c, hc, .fresh hc, hok, ?_⟩
  · obtain ⟨before, part, after, htakes, -, hne⟩ := hmoves c (.fresh hc) {} 0 hok
    have hlength := htakes.length_part
    have hkept : ((stage s.toolDocs).run c {} 0).conversation.systemMessage = c.systemMessage := by
      obtain rfl := Except.ok.inj hc
      decide
    rw [hkept] at hlength
    have hnone : part.length = 0 := by omega
    exact hne (List.length_eq_zero_iff.1 hnone)
  · obtain rfl := Except.ok.inj hc
    decide

end ToolDocs

end PromptBudget
