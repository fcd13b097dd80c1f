import PromptBudget.Proofs.ToolDocumentation

/-!
# PromptBudget — the section about the tool that failed

After a tool call that was not understood, the user message is given only the section about that
tool. It begins with a line that is its heading, and goes on to the next line that begins a section.

The search is for the text of the heading, not for a line. So it finds the first mention of the
heading: in running text, in a longer heading, or in a deeper one. If there is one in front of the
heading line, what is given is what follows the mention, and it ends before the section begins.

Main results:

* `ToolDocs.firstOccurrence_of_new` — a heading that is not mentioned before is found.
* `ToolDocs.gives_of_mention` — behind a mention, nothing of the section is found.
* `Conversation.Reachable.gives_section` — what is given after a failure, for all documentation.
* `ToolDocs.not_teachesSection` — a longer heading, after which the wrong section is given.
-/

namespace PromptBudget

open Text

namespace ToolDocs

-- ---------------------------------------------------------------------------
-- Heading lines
-- ---------------------------------------------------------------------------

/-- A line of a text is a heading and nothing else. -/
structure HeadingLine (heading text front body : List Char) : Prop where
  append : text = front ++ (heading ++ body)
  starts : front = [] ∨ ['\n'] <:+ front
  ends : body = [] ∨ ['\n'] <+: body ∨ ['\r', '\n'] <+: body

/-- No earlier line is the heading. -/
structure FirstHeading (heading text front body : List Char) : Prop
    extends HeadingLine heading text front body where
  first : ∀ front' body', HeadingLine heading text front' body' → front.length ≤ front'.length

/-- A part of some documentation is the section under the first line that is the heading. -/
def IsSection (heading docs part : List Char) : Prop :=
  ∃ front body rest, FirstHeading heading docs front body ∧ UpTo nextSection body rest ∧
    part = heading ++ rest

/-- What is given of documentation in which the first heading line is between `front` and `body`. -/
inductive Gives (heading docs front body : List Char) : List Char → Prop where
  /-- If nothing before mentions the heading, it is the section under its line. -/
  | fromLine {part : List Char} (hnew : ¬ heading <:+: front)
      (hsection : IsSection heading docs part) : Gives heading docs front body part
  /-- Else it is what follows the first mention, and it ends before the heading line. -/
  | fromMention {before rest more : List Char}
      (hmention : FirstOccurrence heading front before (heading ++ (rest ++ '\n' :: more)))
      (hrest : UpTo nextSection (rest ++ '\n' :: more ++ (heading ++ body)) rest) :
      Gives heading docs front body (heading ++ rest)

variable {heading docs front body : List Char}

instance (heading text front body : List Char) : Decidable (HeadingLine heading text front body) :=
  decidable_of_iff (text = front ++ (heading ++ body) ∧ (front = [] ∨ ['\n'] <:+ front) ∧
      (body = [] ∨ ['\n'] <+: body ∨ ['\r', '\n'] <+: body))
    ⟨fun h => ⟨h.1, h.2.1, h.2.2⟩, fun h => ⟨h.append, h.starts, h.ends⟩⟩

/-- A heading line is the first if no position before is that of another one. -/
theorem firstHeading_of_forall (h : HeadingLine heading docs front body)
    (hfirst : ∀ n < front.length,
      ¬ HeadingLine heading docs (docs.take n) (docs.drop (n + heading.length))) :
    FirstHeading heading docs front body := by
  refine ⟨h, fun front' body' h' => Nat.le_of_not_lt fun hlt => ?_⟩
  have htake : docs.take front'.length = front' := by
    rw [h'.append, List.take_left]
  have hdrop : docs.drop (front'.length + heading.length) = body' := by
    rw [h'.append, ← List.append_assoc, ← List.length_append, List.drop_left]
  refine hfirst front'.length hlt ?_
  rwa [htake, hdrop]

/-- A text without line breaks that begins in some lines ends in them. -/
theorem prefix_in_lines {needle lines rest before back : List Char} (hline : '\n' ∉ needle)
    (hlines : lines = [] ∨ ['\n'] <:+ lines) (hsplit : lines ++ rest = before ++ back)
    (hstarts : needle <+: back) (hlt : before.length < lines.length) :
    ∃ middle, lines = before ++ middle ∧ needle <+: middle := by
  obtain ⟨middle, rfl⟩ : before <+: lines :=
    List.prefix_of_prefix_length_le ⟨back, hsplit.symm⟩ (List.prefix_append lines rest)
      (Nat.le_of_lt hlt)
  rw [List.append_assoc, List.append_cancel_left_eq] at hsplit
  rw [← hsplit] at hstarts
  refine ⟨middle, rfl, ?_⟩
  rcases List.prefix_or_prefix_of_prefix hstarts (List.prefix_append middle rest) with h | h
  · exact h
  · -- otherwise the line break at the end of the lines would be in it
    have hpos : 0 < middle.length := by
      rw [List.length_append] at hlt
      omega
    have hbreak : ['\n'] <:+ middle := by
      rcases hlines with hnil | hlast
      · rw [List.append_eq_nil_iff.1 hnil |>.2] at hpos
        exact absurd hpos (Nat.lt_irrefl 0)
      · exact List.suffix_of_suffix_length_le hlast (List.suffix_append before middle) hpos
    exact absurd (h.subset (hbreak.subset (List.mem_singleton_self '\n'))) hline

theorem firstOccurrence_of_new (hline : '\n' ∉ heading)
    (h : HeadingLine heading docs front body) (hnew : ¬ heading <:+: front) :
    FirstOccurrence heading docs front (heading ++ body) := by
  refine ⟨h.append, List.prefix_append heading body, fun before back hsplit hstarts => ?_⟩
  refine Nat.le_of_not_lt fun hlt => ?_
  rw [h.append] at hsplit
  obtain ⟨middle, rfl, hmiddle⟩ := prefix_in_lines hline h.starts hsplit hstarts hlt
  exact hnew (hmiddle.isInfix.trans (List.suffix_append before middle).isInfix)

/-- Lines that mention a heading go on behind the mention, at least to the end of the line. -/
theorem suffix_behind_mention {before back : List Char} (hline : '\n' ∉ heading)
    (hne : heading ≠ []) (hlines : before ++ (heading ++ back) = [] ∨
      ['\n'] <:+ before ++ (heading ++ back)) : ['\n'] <:+ back := by
  have hlast : ['\n'] <:+ before ++ (heading ++ back) := by
    rcases hlines with hnil | hlast
    · exact absurd (List.append_eq_nil_iff.1 (List.append_eq_nil_iff.1 hnil).2).1 hne
    · exact hlast
  by_cases hback : back = []
  · subst hback
    rw [List.append_nil] at hlast
    have hend : ['\n'] <:+ heading := List.suffix_of_suffix_length_le hlast
      (List.suffix_append before heading) (List.length_pos_iff.2 hne)
    exact absurd (hend.subset (List.mem_singleton_self '\n')) hline
  · refine List.suffix_of_suffix_length_le hlast ?_ (List.length_pos_iff.2 hback)
    exact (List.suffix_append heading back).trans (List.suffix_append before (heading ++ back))

/-- In front of a line that begins a section, a section ends with a line. -/
theorem exists_upTo_lines (lines : List Char) {next : List Char}
    (h : nextSection <+: '\n' :: next) :
    ∃ rest more, lines ++ ['\n'] = rest ++ '\n' :: more ∧
      UpTo nextSection (rest ++ '\n' :: more ++ next) rest := by
  have hsplit : lines ++ ['\n'] ++ next = lines ++ '\n' :: next := by
    rw [List.append_assoc, List.singleton_append]
  obtain ⟨rest, after, hrest⟩ := exists_firstOccurrence
    (h.isInfix.trans (hsplit ▸ (List.suffix_append lines _).isInfix))
  have hle : rest.length ≤ lines.length := hrest.first lines _ hsplit h
  obtain ⟨middle, rfl⟩ : rest <+: lines := by
    refine List.prefix_of_prefix_length_le ⟨after, hrest.append.symm⟩ ?_ hle
    rw [List.append_assoc]
    exact List.prefix_append lines _
  have hafter : after = middle ++ '\n' :: next := by
    have happend := hrest.append
    rw [hsplit, List.append_assoc] at happend
    exact (List.append_cancel_left happend).symm
  obtain ⟨more, hmore⟩ : ∃ more, middle ++ ['\n'] = '\n' :: more := by
    cases middle with
    | nil => exact ⟨[], rfl⟩
    | cons c middle =>
      have hstarts := hrest.starts
      rw [hafter, List.cons_append] at hstarts
      obtain rfl : '\n' = c := (List.cons_prefix_cons.1 hstarts).1
      exact ⟨middle ++ ['\n'], rfl⟩
  have hlines : rest ++ middle ++ ['\n'] = rest ++ '\n' :: more := by
    rw [List.append_assoc, hmore]
  refine ⟨rest, more, hlines, .inl ⟨after, ?_⟩⟩
  rwa [← hlines]

/-- Behind a mention of the heading the next section begins no later than with the heading line. -/
theorem gives_of_mention (hline : '\n' ∉ heading)
    (hmarks : ['#', '#', ' '] <+: heading) (h : HeadingLine heading docs front body)
    (hmention : heading <:+: front) :
    ∃ part, Gives heading docs front body part ∧ section? heading docs = some part := by
  obtain ⟨before, found, hfirst⟩ := exists_firstOccurrence hmention
  obtain ⟨back, rfl⟩ := hfirst.starts
  have hne : heading ≠ [] := by
    rintro rfl
    cases List.prefix_nil.1 hmarks
  have hstarts := h.starts
  rw [hfirst.append] at hstarts
  obtain ⟨lines, rfl⟩ := suffix_behind_mention hline hne hstarts
  have hsection : nextSection <+: '\n' :: (heading ++ body) :=
    List.cons_prefix_cons.2 ⟨rfl, hmarks.trans (List.prefix_append heading body)⟩
  obtain ⟨rest, more, hback, hrest⟩ := exists_upTo_lines lines hsection
  rw [hback] at hfirst
  refine ⟨heading ++ rest, .fromMention hfirst hrest, ?_⟩
  refine section?_eq_some_iff.2 ⟨before, rest ++ '\n' :: more ++ (heading ++ body), rest, ?_,
    hrest, rfl⟩
  have hwhole := hfirst.append_right (heading ++ body)
  rwa [List.append_assoc heading, ← h.append] at hwhole

/-- What is found of documentation with a heading line. -/
theorem exists_gives (hline : '\n' ∉ heading) (hmarks : ['#', '#', ' '] <+: heading)
    (h : FirstHeading heading docs front body) :
    ∃ part, Gives heading docs front body part ∧ section? heading docs = some part := by
  by_cases hmention : heading <:+: front
  · exact gives_of_mention hline hmarks h.toHeadingLine hmention
  · have hfirst := firstOccurrence_of_new hline h.toHeadingLine hmention
    have hrest : UpTo nextSection body _ := upTo_iff.2 rfl
    have hfound := section?_eq_some_iff.2 ⟨front, body, _, hfirst, hrest, rfl⟩
    exact ⟨_, .fromLine hmention ⟨front, body, _, h, hrest, rfl⟩, hfound⟩

theorem payload_of_section? {settings : ToolDocsSettings} {messages : List Message}
    {part : List Char} (hfailure : TellsFailure settings messages)
    (h : section? settings.failureHeading.toList docs = some part) :
    payload settings messages docs = wrapped (sectionTag settings.failureHeading.toList) part := by
  rw [payload, if_pos (sawFailure_iff.2 hfailure), h]

-- ---------------------------------------------------------------------------
-- What is given after a failure
-- ---------------------------------------------------------------------------

/-- After a failure, documentation with a heading line has its section given to the user, whatever
else it has. -/
def TeachesSection (settings : ToolDocsSettings) : Prop :=
  ∀ c : Conversation, c.Reachable → ∀ context now before docs after user part,
    Documents settings c.systemMessage.text.toList before docs after →
    TellsFailure settings c.messages → c.lastUser? = some user →
    IsSection settings.failureHeading.toList docs part →
      ((stage settings).run c context now).conversation.lastUser? =
        some (user.push (.ephemeral (String.ofList
          (wrapped (sectionTag settings.failureHeading.toList) part))))

/-- With the usual settings it does not: what is found is the section under a longer heading. -/
theorem not_teachesSection :
    let docs := "====\n\nTOOL USE\n## apply_diff_all\nmany\n## apply_diff\none"
    let messages : List Message := [.system (.plain (docs ++ "\n\n====\n\nCAPABILITIES")),
      .user (.plain "Failed to parse apply_diff XML")]
    ¬ TeachesSection {} ∧
    ∃ c, Conversation.ofMessages? messages 1 = .ok c ∧
      IsSection "## apply_diff".toList docs.toList "## apply_diff\none".toList ∧
      ((stage {}).run c {} 0).conversation.messages = [
        .system (.plain "\n\n====\n\nCAPABILITIES"),
        .user (.blocks [.ofText "Failed to parse apply_diff XML",
          .ephemeral "<apply_diff_usage>\n## apply_diff_all\nmany</apply_diff_usage>"])] := by
  intro docs messages
  obtain ⟨c, hc⟩ : ∃ c, Conversation.ofMessages? messages 1 = .ok c := ⟨_, rfl⟩
  have hsection : IsSection "## apply_diff".toList docs.toList "## apply_diff\none".toList := by
    refine ⟨"====\n\nTOOL USE\n## apply_diff_all\nmany\n".toList, "\none".toList, "\none".toList,
      firstHeading_of_forall (by decide) (by decide), ?_, rfl⟩
    exact upTo_iff.2 (by decide)
  refine ⟨?_, c, hc, hsection, ?_⟩
  · intro hteaches
    have hdocuments : Documents {} c.systemMessage.text.toList [] docs.toList
        "\n\n====\n\nCAPABILITIES".toList := by
      obtain rfl := Except.ok.inj hc
      exact ⟨breakOn?_eq_some_iff.1 (by decide), breakOn?_eq_some_iff.1 (by decide)⟩
    have hfailure : TellsFailure {} c.messages := by
      obtain rfl := Except.ok.inj hc
      exact sawFailure_iff.1 (by decide)
    have hlast : c.lastUser? = some (.user (.plain "Failed to parse apply_diff XML")) := by
      obtain rfl := Except.ok.inj hc
      rfl
    have hgiven := hteaches c (.fresh hc) {} 0 _ _ _ _ _ hdocuments hfailure hlast hsection
    obtain rfl := Except.ok.inj hc
    revert hgiven
    decide
  · obtain rfl := Except.ok.inj hc
    decide

end ToolDocs

/-- With the usual settings, after a failure: documentation with a line that is the heading
`## apply_diff` has the section under the first such line given to the user, provided that nothing
in front of it mentions the heading. Else it is what follows the mention. -/
theorem Conversation.Reachable.gives_section {c : Conversation} (hc : c.Reachable)
    (context : RequestContext) (now : Moment) {before docs after front body : List Char}
    {user : Message}
    (hdocuments : ToolDocs.Documents {} c.systemMessage.text.toList before docs after)
    (hfailure : ToolDocs.TellsFailure {} c.messages) (hlast : c.lastUser? = some user)
    (hheading : ToolDocs.FirstHeading "## apply_diff".toList docs front body) :
    let out := (ToolDocs.stage {}).run c context now
    out.result = .ok true ∧
    ∃ part, ToolDocs.Gives "## apply_diff".toList docs front body part ∧
      out.conversation.lastUser? = some (user.push (.ephemeral (String.ofList
        (ToolDocs.wrapped "apply_diff_usage".toList part)))) := by
  intro out
  obtain ⟨hok, content, hmoved⟩ := ToolDocs.run_moves hc hlast hdocuments context now
  obtain ⟨part, hgives, hsection⟩ := ToolDocs.exists_gives (by decide) (by decide) hheading
  have htag : ToolDocs.sectionTag "## apply_diff".toList = "apply_diff_usage".toList := by decide
  have hlastUser := hmoved.lastUser?
  rw [ToolDocs.payload_of_section? hfailure hsection] at hlastUser
  exact ⟨hok, part, hgives, htag ▸ hlastUser⟩

/-- A heading line between a deeper and a longer heading. -/
theorem Conversation.Reachable.gives_section_plain :
    let docs := "====\n\nTOOL USE\nOn apply_diff\n## apply_diff\nd\n### More\n## apply_diff_all\nx"
    let front := "====\n\nTOOL USE\nOn apply_diff\n"
    let body := "\nd\n### More\n## apply_diff_all\nx"
    let user : Message := .user (.plain "Go")
    ∃ c, Conversation.ofMessages? [.system (.plain (docs ++ "\n\n====\n\nCAPABILITIES")),
        .tool "1" (.plain "Failed to parse apply_diff XML"), user] 1 = .ok c ∧
      c.Reachable ∧ ToolDocs.Documents {} c.systemMessage.text.toList [] docs.toList
        "\n\n====\n\nCAPABILITIES".toList ∧
      ToolDocs.TellsFailure {} c.messages ∧ c.lastUser? = some user ∧
      ToolDocs.FirstHeading "## apply_diff".toList docs.toList front.toList body.toList ∧
      ¬ "## apply_diff".toList <:+: front.toList ∧
      let out := (ToolDocs.stage {}).run c {} 0
      out.result = .ok true ∧
      (∃ part, ToolDocs.Gives "## apply_diff".toList docs.toList front.toList body.toList part ∧
        out.conversation.lastUser? = some (user.push (.ephemeral (String.ofList
          (ToolDocs.wrapped "apply_diff_usage".toList part))))) ∧
      out.conversation.lastUser? = some (user.push (.ephemeral
        "<apply_diff_usage>\n## apply_diff\nd\n### More</apply_diff_usage>")) := by
  intro docs front body user
  obtain ⟨c, hc⟩ : ∃ c, Conversation.ofMessages?
    [.system (.plain (docs ++ "\n\n====\n\nCAPABILITIES")),
      .tool "1" (.plain "Failed to parse apply_diff XML"), user] 1 = .ok c := ⟨_, rfl⟩
  have hdocuments : ToolDocs.Documents {} c.systemMessage.text.toList [] docs.toList
      "\n\n====\n\nCAPABILITIES".toList := by
    obtain rfl := Except.ok.inj hc
    exact ⟨breakOn?_eq_some_iff.1 (by decide), breakOn?_eq_some_iff.1 (by decide)⟩
  have hfailure : ToolDocs.TellsFailure {} c.messages := by
    obtain rfl := Except.ok.inj hc
    exact ToolDocs.sawFailure_iff.1 (by decide)
  have hlast : c.lastUser? = some user := by
    obtain rfl := Except.ok.inj hc
    rfl
  have hheading : ToolDocs.FirstHeading "## apply_diff".toList docs.toList front.toList
      body.toList := ToolDocs.firstHeading_of_forall (by decide) (by decide)
  have hnew : ¬ "## apply_diff".toList <:+: front.toList :=
    mt contains_iff.2 (by decide)
  obtain ⟨hok, hgiven⟩ := gives_section (.fresh hc) {} 0 hdocuments hfailure hlast hheading
  refine ⟨c, hc, .fresh hc, hdocuments, hfailure, hlast, hheading, hnew, hok, hgiven, ?_⟩
  obtain rfl := Except.ok.inj hc
  decide

end PromptBudget
