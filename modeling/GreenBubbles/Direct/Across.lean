import GreenBubbles.Direct.Following

/-! # Following a search across conversations

A page may stop within a conversation or between two of them. What is left then
is the rest of one conversation and all behind it; every page leaves less.
-/
namespace GreenBubbles.Direct

open Library Library.Bytes Library.Outcomes Library.Paging
open Connector (ConnectorDestination)

/-- The databases check the conversation and the cursor before they read. -/
structure LiveQueries.Checked (live : LiveQueries) : Prop where
  messages : ∀ {conversationId limit cursor notBefore notAfter page},
    live.listMessagesInTimeRange conversationId limit cursor notBefore notAfter = .ok page →
      ValidConversationId conversationId ∧ ∀ inner, cursor = some inner → ValidCursor inner
  searches : ∀ {query conversationId limit cursor notBefore notAfter page},
    live.searchMessagesInTimeRange query conversationId limit cursor notBefore notAfter =
        .ok page →
      ValidConversationId conversationId ∧ ∀ inner, cursor = some inner → ValidCursor inner

section Search

variable {libs : DirectLibraries} (service : DirectConnectorService) (live : LiveQueries)
  (query : String) (binding : CursorBinding)

/-- What a search releases of the hits in a conversation. -/
def releasedHits (hits : String → List SearchItem) (entry : String × ConversationToolScope) :
    List MinimizedMessage :=
  (hits entry.1).map (projectSearchHit service.source service.policy entry.2)

/-- The pages of a conversation show these hits. -/
def SearchDrains (hits : String → List SearchItem) (bounds : String → ℕ)
    (entry : String × ConversationToolScope) : Prop :=
  Drains (hitPage live service query entry) (bounds entry.1) none (hits entry.1)

variable (hits : String → List SearchItem) (bounds : String → ℕ)

/-- What is left of a search: the first conversation from a cursor on and all behind it, on so
many pages of the databases at most. -/
inductive Left : List (String × ConversationToolScope) → Option String → ℕ →
    List MinimizedMessage → Prop
  | mk {entry : String × ConversationToolScope} {rest : List (String × ConversationToolScope)}
      {inner : Option String} {pages : ℕ} {items : List SearchItem}
      (hvisited : Visited (hitPage live service query entry) inner)
      (hdrains : Drains (hitPage live service query entry) pages inner items) :
      Left (entry :: rest) inner (pages + (rest.map (bounds ·.1)).sum)
        (items.map (projectSearchHit service.source service.policy entry.2) ++
          rest.flatMap (releasedHits service hits))

/-- A page ends the search, or it goes on where less is left. -/
inductive Continues (conversations : List (String × ConversationToolScope)) (pages : ℕ) :
    Option String → List MinimizedMessage → Prop
  | done : Continues conversations pages none []
  | more {front rest : List (String × ConversationToolScope)}
      {entry : String × ConversationToolScope} {inner : Option String} {left : ℕ}
      {later : List MinimizedMessage} (hsuffix : conversations = front ++ entry :: rest)
      (hfits : CursorFits binding entry.1 inner)
      (hleft : Left service live query hits bounds (entry :: rest) inner left later)
      (hless : left < pages) :
      Continues conversations pages (some (readCursorText binding entry.1 inner)) later

variable {service live query binding hits bounds}

theorem Continues.weaken {conversations : List (String × ConversationToolScope)} {pages more : ℕ}
    {next : Option String} {later : List MinimizedMessage}
    (h : Continues service live query binding hits bounds conversations pages next later)
    (hmore : pages ≤ more) (entry : String × ConversationToolScope) :
    Continues service live query binding hits bounds (entry :: conversations) more next later := by
  cases h with
  | done => exact .done
  | more hsuffix hfits hleft hless =>
    rw [hsuffix, ← List.cons_append]
    exact .more rfl hfits hleft (hless.trans_le hmore)

/-- A search is left where its conversation and its cursor are valid. -/
theorem Left.valid (hchecked : live.Checked) {entry : String × ConversationToolScope}
    {rest : List (String × ConversationToolScope)} {inner : Option String} {pages : ℕ}
    {items : List MinimizedMessage}
    (h : Left service live query hits bounds (entry :: rest) inner pages items) :
    ValidConversationId entry.1 ∧ ∀ value, inner = some value → ValidCursor value := by
  cases h with
  | @mk entry rest inner pages items hvisited hdrains =>
    cases pages with
    | zero => exact hdrains.elim
    | succ pages =>
      obtain ⟨page, later, hpage, -, -⟩ :=
        hdrains (pageSize service (by decide : 0 < maxSearchLimit) 1)
      rw [hitPage] at hpage
      cases hquery : live.searchMessagesInTimeRange query entry.1
          (pageSize service (by decide : 0 < maxSearchLimit) 1).1 inner entry.2.notBeforeUnix
          entry.2.notAfterUnix with
      | error error =>
        rw [hquery] at hpage
        cases hpage
      | ok answer => exact hchecked.searches hquery

/-- The databases answer the first conversation of what is left. -/
theorem Left.page {entry : String × ConversationToolScope}
    {rest : List (String × ConversationToolScope)} {inner : Option String} {pages : ℕ}
    {items : List MinimizedMessage}
    (h : Left service live query hits bounds (entry :: rest) inner pages items)
    (size : PageSize service maxSearchLimit) : ∃ answer left later,
      live.searchMessagesInTimeRange query entry.1 size.1 inner entry.2.notBeforeUnix
        entry.2.notAfterUnix = .ok answer ∧
      items = answer.items.map (projectSearchHit service.source service.policy entry.2) ++
        (later.map (projectSearchHit service.source service.policy entry.2) ++
          rest.flatMap (releasedHits service hits)) ∧
      pages = left + 1 + (rest.map (bounds ·.1)).sum ∧
      (answer.nextCursor = none → later = []) ∧
      ∀ next, answer.nextCursor = some next →
        Visited (hitPage live service query entry) (some next) ∧
          Drains (hitPage live service query entry) left (some next) later := by
  cases h with
  | @mk entry rest inner pages items hvisited hdrains =>
    cases pages with
    | zero => exact hdrains.elim
    | succ left =>
      obtain ⟨page, later, hpage, rfl, hlater⟩ := hdrains size
      have hanswer := hpage
      rw [hitPage] at hanswer
      cases hquery : live.searchMessagesInTimeRange query entry.1 size.1 inner
          entry.2.notBeforeUnix entry.2.notAfterUnix with
      | error error =>
        rw [hquery] at hanswer
        cases hanswer
      | ok answer =>
        rw [hquery] at hanswer
        obtain rfl := Except.ok.inj hanswer
        refine ⟨answer, left, later, rfl, ?_, rfl, ?_, ?_⟩
        · simp [QueryPage.toPage]
        · intro hnext
          simpa [QueryPage.toPage, hnext] using hlater
        · intro next hnext
          have htail : Drains (hitPage live service query entry) left (some next) later := by
            simpa [QueryPage.toPage, hnext] using hlater
          refine ⟨@Visited.next _ _ _ _ _ inner size answer.items next hvisited ?_, htail⟩
          rw [hpage, QueryPage.toPage, hnext]

variable {arrival : Arrival}

section Steps

variable {limit scanned : ℕ} {found : AcrossPage} {inner : Option String}
  {entry : String × ConversationToolScope} {answer : QueryPage SearchItem}

/-- A page that is full stays as it is. -/
theorem searchAcross_full {conversations : List (String × ConversationToolScope)}
    (h : ¬ (found.messages.length < limit ∧ scanned < maxCrossSearchConversationsPerPage)) :
    searchAcross service arrival binding query limit conversations inner scanned found =
      .ok found := by
  cases conversations with
  | nil => rfl
  | cons entry rest => exact if_neg h

variable (hopen : found.messages.length < limit ∧ scanned < maxCrossSearchConversationsPerPage)
  (hquery : arrival.live.searchMessagesInTimeRange query entry.1 (limit - found.messages.length)
    inner entry.2.notBeforeUnix entry.2.notAfterUnix = .ok answer)

include hopen hquery

/-- The conversation goes on. -/
theorem searchAcross_within {next : String} (hnext : answer.nextCursor = some next)
    (hfits : CursorFits binding entry.1 (some next))
    (rest : List (String × ConversationToolScope)) :
    searchAcross service arrival binding query limit (entry :: rest) inner scanned found =
      .ok { found.extended service entry.2 answer with
        nextCursor := some (readCursorText binding entry.1 (some next)) } := by
  rw [searchAcross, if_pos hopen]
  simp [hquery, Except.mapError, bind, Except.bind, hnext, encodeReadCursor_fits hfits, pure,
    Except.pure]

/-- The last conversation is done. -/
theorem searchAcross_ended (hnext : answer.nextCursor = none) :
    searchAcross service arrival binding query limit [entry] inner scanned found =
      .ok { found.extended service entry.2 answer with nextCursor := none } := by
  rw [searchAcross, if_pos hopen]
  simp [hquery, Except.mapError, bind, Except.bind, hnext, pure, Except.pure]

/-- A conversation is done and another one follows. -/
theorem searchAcross_onward (hnext : answer.nextCursor = none)
    {following : String × ConversationToolScope} (hfits : CursorFits binding following.1 none)
    (rest : List (String × ConversationToolScope)) :
    searchAcross service arrival binding query limit (entry :: following :: rest) inner scanned
        found =
      searchAcross service arrival binding query limit (following :: rest) none (scanned + 1)
        { found.extended service entry.2 answer with
          nextCursor := some (readCursorText binding following.1 none) } := by
  rw [searchAcross, if_pos hopen]
  simp [hquery, Except.mapError, bind, Except.bind, hnext, encodeReadCursor_fits hfits]

end Steps

/-- One page of a search shows the next of what is left. -/
theorem searchAcross_continues (hlive : arrival.live = live) {limit : ℕ}
    (hlimit : limit ≤ min service.policy.maximumResultCount maxSearchLimit)
    {entry : String × ConversationToolScope} {rest : List (String × ConversationToolScope)}
    (hdrains : ∀ other ∈ rest, SearchDrains service live query hits bounds other)
    (hfits : ∀ other ∈ entry :: rest, ∀ inner,
      Visited (hitPage live service query other) (some inner) →
        CursorFits binding other.1 (some inner))
    (hfollowing : ∀ other ∈ rest, CursorFits binding other.1 none)
    {inner : Option String} {scanned pages : ℕ} {found : AcrossPage}
    {items : List MinimizedMessage}
    (hleft : Left service live query hits bounds (entry :: rest) inner pages items)
    (hroom : found.messages.length < limit)
    (hscanned : scanned < maxCrossSearchConversationsPerPage) :
    ∃ result shown later, searchAcross service arrival binding query limit (entry :: rest) inner
        scanned found = .ok result ∧ result.messages = found.messages ++ shown ∧
      items = shown ++ later ∧
      Continues service live query binding hits bounds (entry :: rest) pages result.nextCursor
        later := by
  induction rest generalizing entry inner scanned pages found items with
  | nil =>
    obtain ⟨answer, left, later, hquery, hitems, hpages, hlast, hmore⟩ :=
      hleft.page ⟨limit - found.messages.length, by omega, by omega⟩
    rw [← hlive] at hquery
    cases hnext : answer.nextCursor with
    | none =>
      have hnil := hlast hnext
      subst hnil
      refine ⟨_, _, [], searchAcross_ended ⟨hroom, hscanned⟩ hquery hnext, rfl, ?_, .done⟩
      simpa using hitems
    | some next =>
      obtain ⟨hvisited, hrest⟩ := hmore next hnext
      have hcursor := hfits entry List.mem_cons_self next hvisited
      refine ⟨_, _, _, searchAcross_within ⟨hroom, hscanned⟩ hquery hnext hcursor [], rfl, hitems,
        ?_⟩
      apply @Continues.more _ _ _ _ _ _ _ _ [] _ _ _ _ _ rfl hcursor (.mk hvisited hrest)
      omega
  | cons following rest ih =>
    obtain ⟨answer, left, later, hquery, hitems, hpages, hlast, hmore⟩ :=
      hleft.page ⟨limit - found.messages.length, by omega, by omega⟩
    rw [← hlive] at hquery
    cases hnext : answer.nextCursor with
    | none =>
      have hnil := hlast hnext
      subst hnil
      have hcursor := hfollowing following List.mem_cons_self
      have hstart : Left service live query hits bounds (following :: rest) none
          (bounds following.1 + (rest.map (bounds ·.1)).sum)
          (releasedHits service hits following ++ rest.flatMap (releasedHits service hits)) :=
        .mk .start (hdrains following List.mem_cons_self)
      rw [List.map_cons, List.sum_cons] at hpages
      rw [List.map_nil, List.nil_append, List.flatMap_cons] at hitems
      rw [searchAcross_onward ⟨hroom, hscanned⟩ hquery hnext hcursor rest]
      generalize hfound : ({ found.extended service entry.2 answer with
        nextCursor := some (readCursorText binding following.1 none) } : AcrossPage) = found'
      have hmessages : found'.messages = found.messages ++
          answer.items.map (projectSearchHit service.source service.policy entry.2) := by
        rw [← hfound]
        rfl
      by_cases hgoes : found'.messages.length < limit ∧
          scanned + 1 < maxCrossSearchConversationsPerPage
      · obtain ⟨result, shown, later, hresult, hshown, hsplit, hcontinues⟩ :=
          ih (fun other hother => hdrains other (List.mem_cons_of_mem _ hother))
            (fun other hother => hfits other (List.mem_cons_of_mem _ hother))
            (fun other hother => hfollowing other (List.mem_cons_of_mem _ hother))
            hstart hgoes.1 hgoes.2
        refine ⟨result, answer.items.map (projectSearchHit service.source service.policy entry.2) ++
          shown, later, hresult, ?_, ?_, hcontinues.weaken (by omega) entry⟩
        · rw [hshown, hmessages, List.append_assoc]
        · rw [hitems, hsplit, List.append_assoc]
      · refine ⟨found', _, _, searchAcross_full hgoes, hmessages, hitems, ?_⟩
        have hnextCursor : found'.nextCursor = some (readCursorText binding following.1 none) := by
          rw [← hfound]
        rw [hnextCursor]
        apply @Continues.more _ _ _ _ _ _ _ _ [entry] _ _ _ _ _ rfl hcursor hstart
        omega
    | some next =>
      obtain ⟨hvisited, hrest⟩ := hmore next hnext
      have hcursor := hfits entry List.mem_cons_self next hvisited
      refine ⟨_, _, _, searchAcross_within ⟨hroom, hscanned⟩ hquery hnext hcursor _, rfl, hitems,
        ?_⟩
      apply @Continues.more _ _ _ _ _ _ _ _ [] _ _ _ _ _ rfl hcursor (.mk hvisited hrest)
      omega

end Search

/-! All pages of a search -/

section Pages

variable {libs : DirectLibraries} {service : DirectConnectorService}
  {destination : ConnectorDestination} {live : LiveQueries} {query : String}
  {hits : String → List SearchItem} {bounds : String → ℕ}

/-- A cursor names the conversation that a search goes on with. -/
theorem searchFrom_named {conversations front rest : List (String × ConversationToolScope)}
    {entry : String × ConversationToolScope} (hordered : conversations.Pairwise (·.1 < ·.1))
    (hsplit : conversations = front ++ entry :: rest) {decoded : DirectReadCursor}
    (hnamed : decoded.conversationId = entry.1) :
    searchFrom conversations (some decoded) = .ok (entry :: rest) := by
  have hdropped : conversations.dropWhile (·.1 != decoded.conversationId) = entry :: rest := by
    rw [hsplit, List.dropWhile_append_of_pos, List.dropWhile_cons_of_neg]
    · simp [hnamed]
    · intro other hother
      rw [hsplit, List.pairwise_append] at hordered
      rw [hnamed]
      exact bne_iff_ne.mpr (hordered.2.2 other hother entry List.mem_cons_self).ne
  simp only [searchFrom, hdropped]

/-- The binding of the cursors of a search across conversations. -/
def acrossBinding (service : DirectConnectorService) (destination : ConnectorDestination)
    (query : String) : CursorBinding :=
  requestBinding service destination "searchAcross" (some (directQueryDigest query))

variable (hchecked : live.Checked)
  (hdrains : ∀ entry ∈ authorized service destination .searchMessages,
    SearchDrains service live query hits bounds entry)
  (hfits : ∀ entry ∈ authorized service destination .searchMessages, ∀ inner,
    Visited (hitPage live service query entry) (some inner) →
      CursorFits (acrossBinding service destination query) entry.1 (some inner))
  (hfollowing : ∀ entry ∈ (authorized service destination .searchMessages).tail,
    CursorFits (acrossBinding service destination query) entry.1 none)

include hdrains hfits hfollowing

/-- The page at a cursor shows the next of what is left there. -/
theorem searchEverywhere_continues (asking : Asking libs service) {cursor : Option String}
    {decoded : Option DirectReadCursor}
    (hdecode : decodeReadCursor libs.cursors (acrossBinding service destination query) none cursor =
      .ok decoded)
    {front rest : List (String × ConversationToolScope)} {entry : String × ConversationToolScope}
    (hsplit : authorized service destination .searchMessages = front ++ entry :: rest)
    (hfrom : searchFrom (authorized service destination .searchMessages) decoded =
      .ok (entry :: rest))
    {pages : ℕ} {items : List MinimizedMessage}
    (hleft : Left service live query hits bounds (entry :: rest) (decoded.bind (·.innerCursor)) pages
      items) :
    ∃ page later, messagePage destination live (.searchMessages query none) asking cursor =
        .ok page ∧ items = page.items ++ later ∧
      Continues service live query (acrossBinding service destination query) hits bounds
        (entry :: rest) pages page.next later := by
  have hmem : ∀ other ∈ entry :: rest, other ∈ authorized service destination .searchMessages := by
    intro other hother
    rw [hsplit]
    exact List.mem_append_right _ hother
  have htail : ∀ other ∈ rest, other ∈ (authorized service destination .searchMessages).tail := by
    intro other hother
    rw [hsplit]
    cases front with
    | nil => exact hother
    | cons first front => exact List.mem_append_right _ (List.mem_cons_of_mem _ hother)
  have hbounds := @boundedLimit_bounds service maxSearchLimit (by decide) (asking.limit.getD 20)
  obtain ⟨result, shown, later, hresult, hshown, hitems, hcontinues⟩ :=
    @searchAcross_continues service live query (acrossBinding service destination query) hits bounds
      (asking.arrival destination live (.searchMessages query none cursor asking.limit)) rfl
      (boundedLimit service (asking.limit.getD 20) maxSearchLimit) hbounds.2 entry rest
      (fun other hother => hdrains other (hmem other (List.mem_cons_of_mem _ hother)))
      (fun other hother => hfits other (hmem other hother))
      (fun other hother => hfollowing other (htail other hother)) _ 0 pages
      { messages := []
        limitationCodes := {"directCrossConversationSearchOrderedByConversation"}
        omittedMessageCount := 0
        nextCursor := none } items hleft hbounds.1 (by decide)
  refine ⟨⟨shown, result.nextCursor⟩, later, ?_, hitems, hcontinues⟩
  have hsome : (searchable service (asking.arrival destination live
      (.searchMessages query none cursor asking.limit))).isEmpty = false := by
    change (authorized service destination .searchMessages).isEmpty = false
    rw [hsplit]
    simp
  have haudit := fun count bytes => @audit_outcome libs service (asking.arrival destination live
    (.searchMessages query none cursor asking.limit)) asking.journal (asking.valid _ _ _)
    asking.writes "searchMessages" rfl none .completed count bytes query.utf8ByteSize
  rw [messagePage, Asking.reply_searchMessages]
  have hresult' : searchAcross service
      (asking.arrival destination live (.searchMessages query none cursor asking.limit))
      (readBinding service (asking.arrival destination live
        (.searchMessages query none cursor asking.limit)) "searchAcross"
        (some (directQueryDigest query)))
      query (boundedLimit service (asking.limit.getD 20) maxSearchLimit) (entry :: rest)
      (decoded.bind (·.innerCursor)) 0
      { messages := []
        limitationCodes := {"directCrossConversationSearchOrderedByConversation"}
        omittedMessageCount := 0
        nextCursor := none } = .ok result := hresult
  have hdecode' : decodeReadCursor libs.cursors (readBinding service (asking.arrival destination
      live (.searchMessages query none cursor asking.limit)) "searchAcross"
      (some (directQueryDigest query))) none cursor = .ok decoded := hdecode
  have hfrom' : searchFrom (searchable service (asking.arrival destination live
      (.searchMessages query none cursor asking.limit))) decoded = .ok (entry :: rest) := hfrom
  simp only [searchMessages, searchEverywhere, hsome, Bool.false_eq_true, if_false,
    outcome_bind_ofExcept, hdecode', hfrom', hresult']
  rw [outcome_bind_ok (haudit _ _)]
  simp [ConnectorResult.messagePage, hshown, Except.map]

include hchecked

/-- The pages of a search across conversations show the hits of each conversation in turn. -/
theorem searchEverywhere_drains (hsome : authorized service destination .searchMessages ≠ []) :
    ∃ pages, Drains (@messagePage libs service destination live (.searchMessages query none)) pages
      none ((authorized service destination .searchMessages).flatMap (releasedHits service hits)) := by
  have hordered := @authorized_ordered service destination .searchMessages
  suffices h : ∀ (most pages : ℕ) (cursor : Option String) (decoded : Option DirectReadCursor)
      (front rest : List (String × ConversationToolScope)) (entry : String × ConversationToolScope)
      (items : List MinimizedMessage),
      decodeReadCursor libs.cursors (acrossBinding service destination query) none cursor =
        .ok decoded →
      authorized service destination .searchMessages = front ++ entry :: rest →
      searchFrom (authorized service destination .searchMessages) decoded = .ok (entry :: rest) →
      Left service live query hits bounds (entry :: rest) (decoded.bind (·.innerCursor)) pages
        items → pages < most →
      Drains (@messagePage libs service destination live (.searchMessages query none)) most cursor
        items by
    cases hlist : authorized service destination .searchMessages with
    | nil => exact absurd hlist hsome
    | cons entry rest =>
      have hstart : Left service live query hits bounds (entry :: rest) none
          (bounds entry.1 + (rest.map (bounds ·.1)).sum)
          (releasedHits service hits entry ++ rest.flatMap (releasedHits service hits)) :=
        .mk .start (hdrains entry (hlist ▸ List.mem_cons_self))
      exact ⟨_, h _ _ none none [] rest entry _ rfl hlist (congrArg Except.ok hlist) hstart
        (Nat.lt_succ_self _)⟩
  intro most
  induction most with
  | zero =>
    intro pages cursor decoded front rest entry items _ _ _ _ hless
    omega
  | succ most ih =>
    intro pages cursor decoded front rest entry items hdecode hsplit hfrom hleft hless asking
    obtain ⟨page, later, hpage, hitems, hcontinues⟩ :=
      searchEverywhere_continues hdrains hfits hfollowing asking hdecode hsplit hfrom hleft
    refine ⟨page, later, hpage, hitems, ?_⟩
    generalize page.next = next at hcontinues
    cases hcontinues with
    | done => rfl
    | @more front' rest' entry' inner' left' later' hsuffix hfits' hleft' hless' =>
      have hvalid := hleft'.valid hchecked
      have hsplit' : authorized service destination .searchMessages =
          (front ++ front') ++ entry' :: rest' := by
        rw [hsplit, hsuffix, List.append_assoc]
      apply ih left' _ (some (readCursor (acrossBinding service destination query) entry'.1 inner'))
        (front ++ front') rest' entry' later
      · exact decodeReadCursor_minted libs.cursors hfits' hvalid.1 hvalid.2 nofun
      · exact hsplit'
      · exact searchFrom_named hordered hsplit' rfl
      · exact hleft'
      · omega

end Pages

end GreenBubbles.Direct
