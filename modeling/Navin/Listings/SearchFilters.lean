import Navin.Listings.CountedListings
import Navin.Notifications.Service
import Navin.Semantics.ShortestMatch
import Navin.Semantics.TwoRuns
import Navin.Shared.JsString

/-! Searching users and notifications for a text. The text is taken for a regular expression
as it is, so that only a text whose characters all stand for themselves is searched for. -/
namespace Navin

open Async Program

section Search

variable [Pcre.CaseTable]

/-- The text holds the search but for case. -/
def Holds (search text : String) : Prop :=
  Pcre.Contains search.toList text.toList

/-- As a pattern it has no NUL character, and every character stands for itself. -/
def StandsForItself (search : String) : Prop :=
  search = "" ∨ '\x00' ∉ search.toList ∧
    Pcre.parse search.toList = some (Pcre.literals search.toList)

/-- A pattern of the syntax that is parsed, in which no quantifier asks for more than one
round. With a NUL character it is none. -/
def InSyntax (search : String) : Prop :=
  '\x00' ∈ search.toList ∨ ∃ regex, Pcre.parse search.toList = some regex ∧ regex.Uncounted

/-- Such a text is searched for as it is. -/
def FoundLiterally (search : String) (compiled : Except ThrownError (String → Bool)) : Prop :=
  ∃ found, compiled = .ok found ∧ ∀ text, found text = true ↔ Holds search text

omit [Pcre.CaseTable] in
/-- A text without metacharacters stands for itself. -/
theorem standsForItself_of_plain {search : String}
    (h : ∀ char ∈ search.toList, char ≠ '\x00' ∧ char ∉ Pcre.metacharacters) :
    StandsForItself search :=
  .inr ⟨fun hNul => (h _ hNul).1 rfl, Pcre.parse_plain fun char hChar => (h char hChar).2⟩

open Classical in
/-- The users whose name or email holds the search. -/
noncomputable def ListingStore.searched (store : ListingStore) (search : String) : ListingStore :=
  { store with
    users := store.users.filter fun user => Holds search user.name ∨ Holds search user.email }

open Classical in
/-- The notifications whose title or description holds the search. -/
noncomputable def searchedNotifications (store : NotificationStore) (search : String) :
    NotificationStore :=
  store.filter fun notification =>
    Holds search notification.title ∨ Holds search notification.description

omit [Pcre.CaseTable] in
/-- What the schemas of both queries make of a text: `z.string().trim()`. -/
def Accepted (search : String) : Prop :=
  ∃ text, trim text = search

variable [RegExps] [DatabaseRegex] [FractionalWindow]

/-- With the search, the listings answer what they answer without it of the documents that
hold it, whatever else is asked for and whatever the database does. -/
structure SearchesFor (search : String) : Prop where
  users : ∀ env store (organizationId : String) (filters : UsersFilters),
    ((findUsersByOrganizationId organizationId { filters with search := some search }).run
        listings env store).2.1 =
      ((findUsersByOrganizationId organizationId { filters with search := none }).run
        listings env (store.searched search)).2.1
  notifications : ∀ env store (userId : String) (query : GetNotificationsQuery),
    ((getNotificationsService userId { query with q := some search }).run
        notifications env store).2.1 =
      ((getNotificationsService userId { query with q := none }).run
        notifications env (searchedNotifications store search)).2.1

end Search

section Users

variable [Pcre.CaseTable] {search : String} {found : String → Bool}

/-- The store of the second run holds what is searched for. -/
def UsersSearched (search : String) (whole kept : ListingStore) : Prop :=
  kept = whole.searched search

/-- Criteria that ask for the search besides the others. -/
theorem executeListing_searched (hFound : ∀ text, found text = true ↔ Holds search text)
    {query other : List (Criterion .users)}
    (hRefused : query.findSome? (·.refused?) = other.findSome? (·.refused?))
    (hAccepts : ∀ user : ListedUser, (query.all fun criterion => criterion.accepts user) =
      ((found user.name || found user.email) && other.all fun criterion => criterion.accepts user))
    (store : ListingStore) :
    (∀ sort skip limit, executeListing store (.find .users query sort skip limit) =
      executeListing (store.searched search) (.find .users other sort skip limit)) ∧
    executeListing store (.count .users query) =
      executeListing (store.searched search) (.count .users other) := by
  have hSelect : store.select .users query = (store.searched search).select .users other := by
    change store.users.docs.filter _ = (store.users.docs.filter _).filter _
    rw [List.filter_filter]
    refine List.filter_congr fun user _ => ?_
    rw [hAccepts, Bool.eq_iff_iff]
    simp only [Bool.and_eq_true, Bool.or_eq_true, decide_eq_true_eq, hFound]
    tauto
  constructor
  · intro sort skip limit
    simp only [executeListing, hRefused, hSelect]
  · simp only [executeListing, hRefused, hSelect]

theorem coupled_list {call call' : ListingCall} {V : call.Answer → call'.Answer → Prop}
    (h : ∀ store : ListingStore, Matching V (executeListing store call)
      (executeListing (store.searched search) call')) :
    Coupled (W := listings) (UsersSearched search) V (list call) (list call') := by
  refine .awaits fun fault whole kept hKept => ⟨hKept, ?_⟩
  obtain rfl : kept = whole.searched search := hKept
  cases fault with
  | none => exact h whole
  | some error => exact matching_error.mpr rfl

/-- A query with the search, and the same without it. -/
theorem coupled_users (hFound : ∀ text, found text = true ↔ Holds search text)
    {query other : List (Criterion .users)}
    (hRefused : query.findSome? (·.refused?) = other.findSome? (·.refused?))
    (hAccepts : ∀ user : ListedUser, (query.all fun criterion => criterion.accepts user) =
      ((found user.name || found user.email) && other.all fun criterion => criterion.accepts user)) :
    (∀ sort skip limit, Coupled (W := listings) (UsersSearched search) (· = ·)
      (list (.find .users query sort skip limit)) (list (.find .users other sort skip limit))) ∧
    Coupled (W := listings) (UsersSearched search) (· = ·) (list (.count .users query))
      (list (.count .users other)) :=
  ⟨fun sort skip limit => coupled_list fun store =>
      matching_eq.mpr ((executeListing_searched hFound hRefused hAccepts store).1 sort skip limit),
    coupled_list fun store =>
      matching_eq.mpr (executeListing_searched hFound hRefused hAccepts store).2⟩

omit [Pcre.CaseTable] in
/-- The search stands after the first condition. -/
theorem givenCriteria_searched (found : String → Bool) (first : Option (Criterion .users))
    (rest : List (Option (Criterion .users))) :
    (givenCriteria (first :: searchCriterion (some found) :: rest)).findSome? (·.refused?) =
        (givenCriteria (first :: none :: rest)).findSome? (·.refused?) ∧
      ∀ user : ListedUser,
        ((givenCriteria (first :: searchCriterion (some found) :: rest)).all fun criterion =>
          criterion.accepts user) =
        ((found user.name || found user.email) &&
          (givenCriteria (first :: none :: rest)).all fun criterion => criterion.accepts user) := by
  cases first with
  | none => exact ⟨rfl, fun user => rfl⟩
  | some first =>
      refine ⟨rfl, fun user => ?_⟩
      exact Bool.and_left_comm _ _ _

theorem coupled_newObjectId (text : String) :
    Coupled (W := listings) (UsersSearched search) (· = ·) (newObjectId text) (newObjectId text) := by
  unfold newObjectId
  split
  · exact .pure rfl
  · exact .throw _

variable [RegExps]

theorem coupled_findUsers (hFound : FoundLiterally search (RegExps.compile search))
    (hSearch : search ≠ "") (organizationId : String) (filters : UsersFilters) :
    Coupled (W := listings) (UsersSearched search) (· = ·)
      (findUsersByOrganizationId organizationId { filters with search := some search })
      (findUsersByOrganizationId organizationId { filters with search := none }) := by
  obtain ⟨found, hCompile, hFound⟩ := hFound
  unfold findUsersByOrganizationId
  refine Coupled.bind (V := (· = ·)) ?_ ?_
  · exact coupled_newObjectId organizationId
  · rintro organization _ rfl
    refine Coupled.bind (V := fun a b => a = some found ∧ b = none) ?_ ?_
    · have hCompiled : compileSearch (some search) = pure (some found) := by
        simp only [compileSearch, truthy_of_ne hSearch, hCompile]
        rfl
      rw [hCompiled]
      exact .pure ⟨rfl, rfl⟩
    · rintro _ _ ⟨rfl, rfl⟩
      have hNone : searchCriterion none = none := rfl
      dsimp only
      rw [hNone]
      cases filters.page with
      | some page =>
          obtain ⟨hRefused, hAccepts⟩ := givenCriteria_searched found _ _
          obtain ⟨hFind, hCount⟩ := coupled_users hFound hRefused hAccepts
          refine ((hFind _ _ _).promiseAll hCount).bind fun answers answers' hAnswers => ?_
          rw [Prod.ext hAnswers.1 hAnswers.2]
          exact .pure rfl
      | none =>
          refine Coupled.bind (V := (· = ·)) ?_ ?_
          · unfold newObjectId?
            split
            · exact (coupled_newObjectId _).map fun _ _ h => congrArg some h
            · exact .pure rfl
          · rintro cursor _ rfl
            obtain ⟨hRefused, hAccepts⟩ := givenCriteria_searched found _ _
            obtain ⟨hFind, -⟩ := coupled_users hFound hRefused hAccepts
            obtain ⟨hRefused', hAccepts'⟩ := givenCriteria_searched found _ _
            obtain ⟨-, hCount⟩ := coupled_users hFound hRefused' hAccepts'
            refine ((hFind _ _ _).promiseAll hCount).bind fun answers answers' hAnswers => ?_
            rw [Prod.ext hAnswers.1 hAnswers.2]
            exact .pure rfl

end Users

section Notifications

variable [Pcre.CaseTable] [DatabaseRegex] {search : String}

theorem selectNotifications_searched (hFound : FoundLiterally search (DatabaseRegex.compile search))
    (store : NotificationStore) (userId : String) (type : Option NotificationType) :
    selectNotifications store ⟨userId, type, some search⟩ =
      selectNotifications (searchedNotifications store search) ⟨userId, type, none⟩ := by
  obtain ⟨found, hCompile, hFound⟩ := hFound
  unfold selectNotifications
  dsimp only
  split
  · rfl
  · rename_i user _
    rw [NotificationFilter.found, NotificationFilter.found]
    dsimp only
    rw [hCompile]
    refine congrArg Except.ok ?_
    change store.docs.filter _ = (store.docs.filter _).filter _
    rw [List.filter_filter]
    refine List.filter_congr fun notification _ => ?_
    rw [Bool.eq_iff_iff]
    simp only [Bool.and_eq_true, Bool.or_eq_true, decide_eq_true_eq, hFound]
    tauto

variable [FractionalWindow]

theorem coupled_notifications {call call' : NotificationCall}
    {V : call.Answer → call'.Answer → Prop}
    (h : ∀ store : NotificationStore, Matching V (executeNotifications store call)
      (executeNotifications (searchedNotifications store search) call')) :
    Coupled (W := notifications) (fun whole kept => kept = searchedNotifications whole search) V
      (await call) (await call') := by
  refine .awaits fun fault whole kept hKept => ⟨hKept, ?_⟩
  obtain rfl : kept = searchedNotifications whole search := hKept
  cases fault with
  | none => exact h whole
  | some error => exact matching_error.mpr rfl

theorem coupled_getNotifications (hFound : FoundLiterally search (DatabaseRegex.compile search))
    (hSearch : search ≠ "") (userId : String) (query : GetNotificationsQuery) :
    Coupled (W := notifications) (fun whole kept => kept = searchedNotifications whole search)
      (· = ·) (getNotificationsService userId { query with q := some search })
      (getNotificationsService userId { query with q := none }) := by
  have hNone : truthy none = none := rfl
  unfold getNotificationsService
  dsimp only
  rw [truthy_of_ne hSearch, hNone]
  have hSelect := selectNotifications_searched hFound
  have hFind (skip limit : ℚ) : Coupled (W := notifications)
      (fun whole kept => kept = searchedNotifications whole search) (· = ·)
      (await (NotificationCall.find ⟨userId, query.type, some search⟩ skip limit))
      (await (NotificationCall.find ⟨userId, query.type, none⟩ skip limit)) :=
    coupled_notifications fun store => by
      simp only [matching_eq, executeNotifications, hSelect]
  have hCount : Coupled (W := notifications)
      (fun whole kept => kept = searchedNotifications whole search) (· = ·)
      (await (NotificationCall.countDocuments ⟨userId, query.type, some search⟩))
      (await (NotificationCall.countDocuments ⟨userId, query.type, none⟩)) :=
    coupled_notifications fun store => by
      simp only [matching_eq, executeNotifications, hSelect]
  refine ((hFind _ _).promiseAll hCount).bind fun answers answers' hAnswers => ?_
  rw [Prod.ext hAnswers.1 hAnswers.2]
  exact .pure rfl

end Notifications

section Exactness

/-- A user whose name and email are the text. -/
def userNamed (organization : ObjectId) (text : String) : ListedUser where
  id := organization
  email := text
  name := text
  role := .viewer
  organizationId := some organization
  deletedAt := none
  createdAt := ⟨0⟩

def storeNaming (organization : ObjectId) (text : String) : ListingStore :=
  { users := ⟨[userNamed organization text], List.nodup_singleton _⟩ }

/-- How many users there are, on either kind of page. -/
def usersTotal : CountedPage ListedUser ⊕ List ListedUser × Nat → Nat
  | .inl page => page.total
  | .inr (_, total) => total

theorem select_naming (organization : ObjectId) (text : String) (found : String → Bool) :
    ((storeNaming organization text).select .users
      (givenCriteria (userCriteria organization (some found) none))).length =
        (found text).toNat := by
  cases hFound : found text <;>
    simp [ListingStore.select, ListingStore.docs, storeNaming, userNamed, givenCriteria,
      userCriteria, equalsCriterion, searchCriterion, textCriterion, truthy, Criterion.accepts,
      ListedCollection.deletedAt, hFound]

open Classical in
/-- The totals of one document with and without the search tell whether it is found. -/
theorem found_iff_of_total {found : Bool} {holds : Prop}
    (h : (Except.ok found.toNat : Except ThrownError Nat) = .ok (decide holds).toNat) :
    found = true ↔ holds := by
  have hNumbers := Except.ok.inj h
  by_cases hHolds : holds <;> cases found <;> simp [hHolds] at hNumbers ⊢

section Users

variable [Pcre.CaseTable] [RegExps] {search : String}

omit [RegExps] in
open Classical in
theorem select_naming_searched (organization : ObjectId) (text : String) :
    (((storeNaming organization text).searched search).select .users
      (givenCriteria (userCriteria organization none none))).length =
        (decide (Holds search text)).toNat := by
  by_cases hHolds : Holds search text <;>
    simp [ListingStore.select, ListingStore.docs, ListingStore.searched, Collection.filter,
      storeNaming, userNamed, givenCriteria, userCriteria, equalsCriterion, searchCriterion,
      textCriterion, truthy, Criterion.accepts, ListedCollection.deletedAt, hHolds]

omit [Pcre.CaseTable] in
theorem total_findUsers {found : Option (String → Bool)} {search : Option String}
    {store : ListingStore} (organization : ObjectId)
    (h : listed (compileSearch search) store = .ok found) :
    (listed (findUsersByOrganizationId organization.toString { page := some 1, search }) store).map
        usersTotal =
      .ok (store.select .users (givenCriteria (userCriteria organization found none))).length := by
  have hListed : listed (findUsersByOrganizationId organization.toString
      { page := some 1, search }) store = listed (promiseAll
        (list (.find .users (givenCriteria (userCriteria organization found none))
          (sortsByKey .users (fun user => user.createdAt.ms) .descending) 0 20))
        (list (.count .users (givenCriteria (userCriteria organization found none)))) >>=
        fun answers => return .inr answers) store := by
    rw [findUsersByOrganizationId]
    exact (listed_bind_ok store (listed_newObjectId organization)).trans (listed_bind_ok store h)
  rw [hListed, listed_findAndCount]
  cases found <;> rfl

omit [Pcre.CaseTable] in
theorem compileSearch_eq (hSearch : search ≠ "") (store : ListingStore) :
    listed (compileSearch (some search)) store = (RegExps.compile search).map some := by
  simp only [compileSearch, truthy_of_ne hSearch, listed_map, listed_settle]

open Classical in
/-- A user with a text for a name tells whether the search finds it. -/
theorem foundLiterally_of_users (organization : ObjectId) (hSearch : search ≠ "")
    (h : ∀ store,
      listed (findUsersByOrganizationId organization.toString
        { page := some 1, search := some search }) store =
      listed (findUsersByOrganizationId organization.toString { page := some 1 })
        (store.searched search)) :
    FoundLiterally search (RegExps.compile search) := by
  have hWithout (text : String) : (listed (findUsersByOrganizationId organization.toString
      { page := some 1, search := some search }) (storeNaming organization text)).map usersTotal =
        .ok (decide (Holds search text)).toNat := by
    rw [h, ← select_naming_searched organization text]
    exact total_findUsers organization rfl
  cases hCompile : RegExps.compile search with
  | error error =>
      have hError : listed (findUsersByOrganizationId organization.toString
          { page := some 1, search := some search }) (storeNaming organization "") =
            .error error := by
        have hSettled := compileSearch_eq hSearch (storeNaming organization "")
        rw [hCompile] at hSettled
        rw [findUsersByOrganizationId]
        exact (listed_bind_ok _ (listed_newObjectId organization)).trans
          (listed_bind_error _ hSettled)
      have hTotal := hWithout ""
      rw [hError] at hTotal
      cases hTotal
  | ok found =>
      refine ⟨found, rfl, fun text => ?_⟩
      have hSettled := compileSearch_eq hSearch (storeNaming organization text)
      rw [hCompile] at hSettled
      have hTotal := (total_findUsers organization hSettled).symm.trans (hWithout text)
      rw [select_naming] at hTotal
      exact found_iff_of_total hTotal

end Users

section Notifications

variable [DatabaseRegex] [FractionalWindow] {search : String}

/-- The answer while the database is there. -/
theorem run_getNotifications (store : NotificationStore) (userId : String)
    (query : GetNotificationsQuery) :
    ((getNotificationsService userId query).run notifications (fun _ => none) store).2.1 =
      let filter : NotificationFilter := ⟨userId, query.type, truthy query.q⟩
      (executeNotifications store (.find filter (max 0 ((query.page - 1) * query.limit))
        query.limit)).bind fun data =>
          (executeNotifications store (.countDocuments filter)).map fun total =>
            ⟨data, query.page, query.limit, total⟩ := by
  have hCall (call : NotificationCall) : (await call : NotificationM _).run notifications
      (fun _ => none) store = (store, executeNotifications store call, fun _ => none) := by
    rw [run_await]
  rw [getNotificationsService, run_bind, run_promiseAll_outcomes (hCall _) (hCall _)]
  dsimp only
  cases executeNotifications store (.find ⟨userId, query.type, truthy query.q⟩
    (max 0 ((query.page - 1) * query.limit)) query.limit) <;>
    cases executeNotifications store (.countDocuments ⟨userId, query.type, truthy query.q⟩) <;> rfl

/-- A notification whose title and description are the text. -/
def storeTitled (userId : ObjectId) (text : String) : NotificationStore :=
  ⟨[⟨userId, userId, .system, text, text, ⟨0⟩, none⟩], List.nodup_singleton _⟩

theorem total_getNotifications (store : NotificationStore) (userId : String) (q : Option String) :
    ((getNotificationsService userId { q }).run notifications (fun _ => none) store).2.1.map
        NotificationsListResult.total =
      (selectNotifications store ⟨userId, none, truthy q⟩).map List.length := by
  have hSkip : max 0 (((1 : ℚ) - 1) * 20) = 0 := by norm_num
  have hWindow (selected : List Notification) :
      windowOf 0 20 selected = .ok (window 0 20 selected) := if_pos ⟨rfl, rfl⟩
  rw [run_getNotifications]
  simp only [hSkip, executeNotifications, hWindow]
  cases selectNotifications store ⟨userId, none, truthy q⟩ <;> rfl

omit [FractionalWindow] in
theorem select_titled (userId : ObjectId) (text : String) {found : String → Bool}
    (hCompile : DatabaseRegex.compile search = .ok found) :
    (selectNotifications (storeTitled userId text) ⟨userId.toString, none, some search⟩).map
      List.length = .ok (found text).toNat := by
  rw [selectNotifications, ObjectId.cast?_toString, NotificationFilter.found]
  simp only [hCompile]
  cases hFound : found text <;> simp [storeTitled, Except.map, hFound]

variable [Pcre.CaseTable]

open Classical in
omit [FractionalWindow] in
theorem select_titled_searched (userId : ObjectId) (text : String) :
    (selectNotifications (searchedNotifications (storeTitled userId text) search)
      ⟨userId.toString, none, none⟩).map List.length =
        .ok (decide (Holds search text)).toNat := by
  rw [selectNotifications, ObjectId.cast?_toString, NotificationFilter.found]
  by_cases hHolds : Holds search text <;>
    simp [storeTitled, searchedNotifications, Collection.filter, Except.map, hHolds]

/-- A notification with a text for a title tells whether the search finds it. -/
theorem foundLiterally_of_notifications (userId : ObjectId) (hSearch : search ≠ "")
    (h : ∀ store,
      ((getNotificationsService userId.toString { q := some search }).run
        notifications (fun _ => none) store).2.1 =
      ((getNotificationsService userId.toString {}).run
        notifications (fun _ => none) (searchedNotifications store search)).2.1) :
    FoundLiterally search (DatabaseRegex.compile search) := by
  have hTotals (text : String) := congrArg (Except.map NotificationsListResult.total)
    (h (storeTitled userId text))
  simp only [total_getNotifications, truthy_of_ne hSearch] at hTotals
  cases hCompile : DatabaseRegex.compile search with
  | error error =>
      have hTotal := (hTotals "").trans (select_titled_searched userId "")
      rw [selectNotifications, ObjectId.cast?_toString, NotificationFilter.found] at hTotal
      simp only [hCompile] at hTotal
      cases hTotal
  | ok found =>
      refine ⟨found, rfl, fun text => ?_⟩
      exact found_iff_of_total (((select_titled userId text hCompile).symm.trans (hTotals text)).trans
        (select_titled_searched userId text))

end Notifications

variable [Pcre.CaseTable] [RegExps] [DatabaseRegex] [FractionalWindow] {search : String}

omit [RegExps] [DatabaseRegex] [FractionalWindow] in
theorem holds_empty (text : String) : Holds "" text :=
  ⟨[], [], text.toList, rfl, .nil⟩

open Classical in
/-- An empty search is none, and everything holds it. -/
theorem searchesFor_empty : SearchesFor "" := by
  have hAll {K V : Type} {key : V → K} (docs : Collection key) {p : V → Bool}
      (h : ∀ doc, p doc = true) : docs.filter p = docs := by
    obtain ⟨docs, unique⟩ := docs
    simp only [Collection.filter, List.filter_eq_self.mpr fun doc _ => h doc]
  constructor
  · intro env store organizationId filters
    have hStore : store.searched "" = store := by
      rw [ListingStore.searched, hAll store.users fun user => decide_eq_true (.inl (holds_empty _))]
    rw [hStore]
    rfl
  · intro env store userId query
    have hStore : searchedNotifications store "" = store :=
      hAll store fun notification => decide_eq_true (.inl (holds_empty _))
    rw [hStore]
    rfl

/-- A text is searched for exactly if both engines take it for what it is. -/
theorem searchesFor_iff : SearchesFor search ↔ search = "" ∨
    FoundLiterally search (RegExps.compile search) ∧
      FoundLiterally search (DatabaseRegex.compile search) := by
  constructor
  · intro h
    by_cases hSearch : search = ""
    · exact .inl hSearch
    · exact .inr ⟨foundLiterally_of_users (.repeated 0) hSearch fun store =>
          h.users (fun _ => none) store _ { page := some 1 },
        foundLiterally_of_notifications (.repeated 0) hSearch fun store =>
          h.notifications (fun _ => none) store _ {}⟩
  · rintro (rfl | ⟨hUsers, hNotifications⟩)
    · exact searchesFor_empty
    · by_cases hSearch : search = ""
      · subst hSearch
        exact searchesFor_empty
      · constructor
        · intro env store organizationId filters
          exact matching_eq.mp
            (coupled_findUsers hUsers hSearch organizationId filters env store _ rfl).2.1
        · intro env store userId query
          exact matching_eq.mp
            (coupled_getNotifications hNotifications hSearch userId query env store _ rfl).2.1

/-- Both engines take a pattern for what is parsed, as far as it is needed here. A NUL
character is refused. -/
structure PcrePatterns : Prop where
  users : ∀ search : String, '\x00' ∉ search.toList →
    Pcre.parse search.toList = some (Pcre.literals search.toList) →
      RegExps.compile search =
        .ok fun text => (Pcre.literals search.toList).search text.toList
  notifications : ∀ (search : String) (regex : Pcre.Regex), '\x00' ∉ search.toList →
    Pcre.parse search.toList = some regex →
      DatabaseRegex.compile search = .ok fun text => regex.search text.toList
  nul : ∀ search : String, '\x00' ∈ search.toList →
    ∃ error, DatabaseRegex.compile search = .error error

variable (hPcre : PcrePatterns) (hCase : Pcre.CaseTable.Sound)

include hPcre

omit [FractionalWindow] in
theorem foundLiterally_of_standsForItself (hNul : '\x00' ∉ search.toList)
    (hParse : Pcre.parse search.toList = some (Pcre.literals search.toList)) :
    FoundLiterally search (RegExps.compile search) ∧
      FoundLiterally search (DatabaseRegex.compile search) :=
  ⟨⟨_, hPcre.users search hNul hParse, fun _ => Pcre.search_literals _ _⟩,
    ⟨_, hPcre.notifications search _ hNul hParse, fun _ => Pcre.search_literals _ _⟩⟩

theorem searchesFor_of_standsForItself (h : StandsForItself search) : SearchesFor search :=
  searchesFor_iff.mpr (h.imp_right fun h => foundLiterally_of_standsForItself hPcre h.1 h.2)

include hCase

omit [FractionalWindow] in
theorem standsForItself_of_found (h : FoundLiterally search (DatabaseRegex.compile search))
    (hSyntax : InSyntax search) : StandsForItself search := by
  obtain ⟨found, hCompile, hFound⟩ := h
  by_cases hNul : '\x00' ∈ search.toList
  · obtain ⟨error, hError⟩ := hPcre.nul search hNul
    rw [hError] at hCompile
    cases hCompile
  · obtain ⟨regex, hParse, hUncounted⟩ := hSyntax.resolve_left hNul
    rw [hPcre.notifications search regex hNul hParse] at hCompile
    obtain rfl := Except.ok.inj hCompile
    have hFinds : Pcre.FindsItself search.toList regex := by
      intro text
      simpa only [Holds, String.toList_ofList] using hFound (String.ofList text)
    refine .inr ⟨hNul, ?_⟩
    rw [hParse, (Pcre.findsItself_iff hCase hUncounted hParse).mp hFinds]

/-- The listings search for a text exactly if it stands for itself: always then, and only
then in the syntax that is parsed. In general it is up to the two engines. -/
theorem search_exact_iff :
    (∀ search, StandsForItself search → SearchesFor search) ∧
    (∀ search, InSyntax search → (SearchesFor search ↔ StandsForItself search)) ∧
    ∀ search, SearchesFor search ↔ search = "" ∨
      FoundLiterally search (RegExps.compile search) ∧
        FoundLiterally search (DatabaseRegex.compile search) := by
  refine ⟨fun search => searchesFor_of_standsForItself hPcre, fun search hSyntax =>
    ⟨fun h => ?_, searchesFor_of_standsForItself hPcre⟩, fun search => searchesFor_iff⟩
  rcases searchesFor_iff.mp h with hEmpty | ⟨-, hFound⟩
  · exact .inl hEmpty
  · exact standsForItself_of_found hPcre hCase hFound hSyntax

end Exactness

section Samples

/-- Letters have one other case. -/
@[reducible] private def letterCases : Pcre.CaseTable :=
  ⟨fun char => [char, char.toLower, char.toUpper]⟩

/-- A pattern as it is parsed, which is refused if it cannot be. -/
private def parsedPattern (pattern : String) : Except ThrownError (String → Bool) :=
  if '\x00' ∈ pattern.toList then .error .unavailable
  else match Pcre.parse pattern.toList with
    | some regex => .ok fun text => @Pcre.Regex.search letterCases regex text.toList
    | none => .error (appError 500 "Invalid regular expression" "ERR_INTERNAL")

@[reducible] private def parsedRegExps : RegExps :=
  ⟨parsedPattern⟩

@[reducible] private def parsedDatabase : DatabaseRegex :=
  ⟨parsedPattern⟩

@[reducible] private def noFractions : FractionalWindow :=
  ⟨fun _ _ _ => .error .unavailable⟩

private theorem letterCases_sound : @Pcre.CaseTable.Sound letterCases :=
  @Pcre.CaseTable.Sound.mk letterCases (fun _ => List.mem_cons_self) (by decide)

private theorem parsedPatterns_pcre : @PcrePatterns letterCases parsedRegExps parsedDatabase := by
  have hParsed (pattern : String) (regex : Pcre.Regex) (hNul : '\x00' ∉ pattern.toList)
      (hParse : Pcre.parse pattern.toList = some regex) : parsedPattern pattern =
        .ok fun text => @Pcre.Regex.search letterCases regex text.toList := by
    rw [parsedPattern, if_neg hNul, hParse]
  refine @PcrePatterns.mk letterCases parsedRegExps parsedDatabase ?_ hParsed ?_
  · exact fun search hNul hParse => hParsed search _ hNul hParse
  · exact fun search hNul => ⟨.unavailable, if_pos hNul⟩

private theorem dotted_inSyntax : InSyntax "j.doe" :=
  .inr ⟨Pcre.dotted "j.doe".toList, by decide +kernel, by
    simp [Pcre.dotted, Pcre.single, Pcre.Regex.Uncounted]⟩

private theorem dotted_not_itself : ¬StandsForItself "j.doe" := by
  rintro (h | ⟨-, h⟩)
  · exact absurd h (by decide)
  · revert h
    decide +kernel

/-- A name is searched for, and a name with a dot is not. -/
theorem search_exact_iff_sample :
    @SearchesFor letterCases parsedRegExps parsedDatabase noFractions "Ann Lee" ∧
      ¬@SearchesFor letterCases parsedRegExps parsedDatabase noFractions "j.doe" := by
  obtain ⟨hPlain, hSyntax, -⟩ := @search_exact_iff letterCases parsedRegExps parsedDatabase
    noFractions parsedPatterns_pcre letterCases_sound
  have hAll : ("Ann Lee".toList.all fun char =>
      decide (char ≠ '\x00' ∧ char ∉ Pcre.metacharacters)) = true := by decide
  refine ⟨hPlain _ (standsForItself_of_plain fun char hChar =>
    of_decide_eq_true (List.all_eq_true.mp hAll char hChar)), fun h => ?_⟩
  exact dotted_not_itself ((hSyntax _ dotted_inSyntax).mp h)

/-- A search with a dot keeps more than the documents that hold it. -/
theorem search_dotted :
    ¬∀ search, Accepted search →
      @SearchesFor letterCases parsedRegExps parsedDatabase noFractions search := by
  intro hClaim
  have hSearches := hClaim "j.doe" ⟨" j.doe ", by decide⟩
  rcases (@searchesFor_iff letterCases parsedRegExps parsedDatabase noFractions "j.doe").mp
    hSearches with h | ⟨-, hFound⟩
  · exact absurd h (by decide)
  · exact dotted_not_itself (@standsForItself_of_found letterCases parsedRegExps parsedDatabase
      "j.doe" parsedPatterns_pcre letterCases_sound hFound dotted_inSyntax)

end Samples

end Navin
