import QueueFlow.App.AiService
import Mathlib.Data.List.DropRight

/-!
# Service suggestions

The keywords of a service are looked up under its name, so of services with one name the last one
lends its category to all of them. The reply of the chat model is searched for the names in the
order of the list, so a service is lost behind one whose name is part of its own.
-/

namespace QueueFlow.Reading
open QueueFlow.App QueueFlow.Tables

variable {lower : String → String} {findWords : String → List String} {text : String}
  {services : List ServiceOption} {service : ServiceOption}

def ownScore (lower : String → String) (findWords : String → List String) (text : String)
    (service : ServiceOption) : Nat :=
  keywordScore (lower text) (keywordsOf lower findWords service)

/-- The suggestion is the first service whose own score is maximal. -/
def SuggestsOwn (lower : String → String) (findWords : String → List String) (text : String)
    (services : List ServiceOption) (answer : Option SuggestServiceResponse) : Prop :=
  ∃ best, FirstBest (ownScore lower findWords text) services best ∧
    ∃ suggestion ∈ answer, suggestion.suggestedServiceId = some best.id ∧
      suggestion.suggestedServiceName = some best.name ∧
      ((∀ service ∈ services, ownScore lower findWords text service = 0) →
        suggestion.confidence = 3 / 10)

/-- The last service whose lowercased name is that of `service`. -/
def namesake (lower : String → String) (services : List ServiceOption)
    (service : ServiceOption) : ServiceOption :=
  (services.reverse.find? fun other => lower other.name = lower service.name).getD service

/-- A service with the category of its last namesake. -/
def lendCategory (lower : String → String) (services : List ServiceOption)
    (service : ServiceOption) : ServiceOption :=
  { service with category := (namesake lower services service).category }

theorem lookup_map (name : String) (options : List ServiceOption) :
    (options.map fun option => (lower option.name, keywordsOf lower findWords option)).lookup name =
      (options.find? fun option => lower option.name = name).map (keywordsOf lower findWords) := by
  induction options with
  | nil => rfl
  | cons option options ih =>
      rw [List.map_cons, List.lookup_cons, List.find?_cons]
      by_cases same : name = lower option.name
      · simp [same]
      · have differs : (name == lower option.name) = false := by simpa using same
        rw [ih, differs]
        simp [Ne.symm same]

theorem keywords_eq : keywords lower findWords services =
    services.reverse.map fun option => (lower option.name, keywordsOf lower findWords option) := by
  induction services using List.reverseRecOn with
  | nil => rfl
  | append_singleton services option ih =>
      rw [List.reverse_append, List.map_append, ← ih, keywords, List.foldl_append]
      rfl

theorem find_namesake (findWords : String → List String) (lower : String → String)
    (member : service ∈ services) :
    ∃ last ∈ services, services.reverse.find?
        (fun other => lower other.name = lower service.name) = some last ∧
      keywordsOf lower findWords (lendCategory lower services service) =
        keywordsOf lower findWords last := by
  have listed : ∃ last, services.reverse.find?
      (fun other => lower other.name = lower service.name) = some last := by
    rw [← Option.isSome_iff_exists, List.find?_isSome]
    exact ⟨service, List.mem_reverse.mpr member, by simp⟩
  obtain ⟨last, found⟩ := listed
  have names : lower last.name = lower service.name := by simpa using List.find?_some found
  refine ⟨last, List.mem_reverse.mp (List.mem_of_find?_eq_some found), found, ?_⟩
  rw [lendCategory, namesake, found]
  simp only [Option.getD_some, keywordsOf, names]

theorem serviceScore_eq (member : service ∈ services) :
    serviceScore lower findWords services (lower text) service =
      ownScore lower findWords text (lendCategory lower services service) := by
  obtain ⟨last, _, found, same⟩ := find_namesake findWords lower member
  rw [serviceScore, keywords_eq, lookup_map, found, ownScore, same]
  rfl

/-- What the code suggests: the first best service by the scores with lent categories. -/
theorem heuristic_firstBest (lower : String → String) (findWords : String → List String)
    (text : String) (nonempty : services ≠ []) :
    ∃ chosen, FirstBest (ownScore lower findWords text ∘ lendCategory lower services) services
        chosen ∧
      ∃ suggestion, heuristicSuggestService lower findWords text services = some suggestion ∧
        suggestion.suggestedServiceId = some chosen.id ∧
        suggestion.suggestedServiceName = some chosen.name ∧
        ((∀ service ∈ services,
            ownScore lower findWords text (lendCategory lower services service) = 0) →
          suggestion.confidence = 3 / 10) := by
  have scores : ∀ service ∈ services, serviceScore lower findWords services (lower text) service =
      (ownScore lower findWords text ∘ lendCategory lower services) service :=
    fun service member => serviceScore_eq member
  rcases loop_firstBest (serviceScore lower findWords services (lower text)) services with
    ⟨state, zero⟩ | ⟨best, state, first, positive⟩
  · obtain ⟨head, rest, rfl⟩ := List.exists_cons_of_ne_nil nonempty
    refine ⟨head, firstBest_congr scores (firstBest_head zero), ?_⟩
    rw [heuristicSuggestService, state]
    exact ⟨_, rfl, rfl, rfl, fun _ => rfl⟩
  · refine ⟨best, firstBest_congr scores first, ?_⟩
    rw [heuristicSuggestService, state]
    refine ⟨_, rfl, rfl, rfl, fun zero => ?_⟩
    obtain ⟨before, after, split, _⟩ := first
    have member : best ∈ services := by simp [split]
    rw [scores best member, Function.comp_apply, zero best member] at positive
    exact absurd positive (lt_irrefl 0)

theorem ownScore_lendCategory (member : service ∈ services)
    (zero : ∀ service ∈ services, ownScore lower findWords text service = 0) :
    ownScore lower findWords text (lendCategory lower services service) = 0 := by
  obtain ⟨last, there, _, same⟩ := find_namesake findWords lower member
  rw [ownScore, same]
  exact zero last there

/-- The suggestion is the service that does best by its own name and category, exactly when lending
out the categories leaves that service the first best one. -/
theorem suggestion_by_own_score (lower : String → String) (findWords : String → List String)
    (text : String) (nonempty : services ≠ []) :
    SuggestsOwn lower findWords text services
        (heuristicSuggestService lower findWords text services) ↔
      ∃ best, FirstBest (ownScore lower findWords text) services best ∧
        ∃ lent, FirstBest (ownScore lower findWords text)
            (services.map (lendCategory lower services)) lent ∧
          lent.id = best.id ∧ lent.name = best.name := by
  obtain ⟨chosen, first, suggestion, answered, id, name, fallback⟩ :=
    heuristic_firstBest lower findWords text nonempty
  simp only [SuggestsOwn, answered, firstBest_map]
  constructor
  · rintro ⟨best, own, other, answer, sameId, sameName, _⟩
    obtain rfl := Option.mem_some_iff.mp answer
    refine ⟨best, own, _, ⟨chosen, first, rfl⟩, ?_, ?_⟩
    · exact Option.some.inj (id.symm.trans sameId)
    · exact Option.some.inj (name.symm.trans sameName)
  · rintro ⟨best, own, _, ⟨other, also, rfl⟩, sameId, sameName⟩
    obtain rfl := firstBest_unique first also
    refine ⟨best, own, suggestion, rfl, sameId ▸ id, sameName ▸ name, fun zero => fallback ?_⟩
    exact fun service member => ownScore_lendCategory member zero

/-- `str.lower` and `\w+` on letters and spaces. -/
def asciiLower (text : String) : String := String.ofList (text.toList.map Char.toLower)

def asciiWords (text : String) : List String := (text.toList.splitOn ' ').map String.ofList

def permits : List ServiceOption := [⟨1, "Permits", some "housing"⟩, ⟨2, "permits", some "parking"⟩]

theorem suggestion_by_own_score_housing :
    SuggestsOwn asciiLower asciiWords "housing" permits
        (heuristicSuggestService asciiLower asciiWords "housing" permits) ↔
      ∃ best, FirstBest (ownScore asciiLower asciiWords "housing") permits best ∧
        ∃ lent, FirstBest (ownScore asciiLower asciiWords "housing")
            (permits.map (lendCategory asciiLower permits)) lent ∧
          lent.id = best.id ∧ lent.name = best.name :=
  suggestion_by_own_score asciiLower asciiWords "housing" (by simp [permits])

/-- Services that share a name up to letter case have the same category. -/
def CategoriesAgree (lower : String → String) (services : List ServiceOption) : Prop :=
  ∀ service ∈ services, ∀ other ∈ services, lower other.name = lower service.name →
    other.category = service.category

theorem lendCategory_eq (agree : CategoriesAgree lower services) (member : service ∈ services) :
    lendCategory lower services service = service := by
  obtain ⟨last, there, found, _⟩ := find_namesake (fun _ => []) lower member
  have names : lower last.name = lower service.name := by simpa using List.find?_some found
  have category : last.category = service.category := agree service member last there names
  rw [lendCategory, namesake, found, Option.getD_some, category]

theorem suggests_own_of_categoriesAgree (findWords : String → List String) (text : String)
    (nonempty : services ≠ []) (agree : CategoriesAgree lower services) :
    SuggestsOwn lower findWords text services
      (heuristicSuggestService lower findWords text services) := by
  obtain ⟨chosen, first, suggestion, answered, id, name, fallback⟩ :=
    heuristic_firstBest lower findWords text nonempty
  refine ⟨chosen, firstBest_congr (fun service member => ?_) first, suggestion, answered, id, name,
    fun zero => fallback fun service member => ?_⟩
  · rw [Function.comp_apply, lendCategory_eq agree member]
  · rw [lendCategory_eq agree member]
    exact zero service member

/-- Asked for parking, the code suggests the other service. -/
theorem parking_misrouted : ¬ SuggestsOwn asciiLower asciiWords "Parking" permits
    (heuristicSuggestService asciiLower asciiWords "Parking" permits) := by
  rintro ⟨best, own, suggestion, answered, sameId, _⟩
  have second : FirstBest (ownScore asciiLower asciiWords "Parking") permits
      ⟨2, "permits", some "parking"⟩ :=
    ⟨[⟨1, "Permits", some "housing"⟩], [], rfl, by decide +kernel, by simp⟩
  obtain rfl := firstBest_unique own second
  have suggested : heuristicSuggestService asciiLower asciiWords "Parking" permits =
      some ⟨some 1, some "Permits", 7 / 10⟩ := by decide +kernel
  rw [suggested] at answered
  obtain rfl := Option.mem_some_iff.mp answered
  exact absurd sameId (by decide)

/-! ## The reply of the chat model -/

def SuggestsNamed (lower : String → String) (services : List ServiceOption)
    (service : ServiceOption) (answer : Option SuggestServiceResponse) : Prop :=
  ∃ other ∈ services, lower other.name = lower service.name ∧
    ∃ suggestion ∈ answer, suggestion.suggestedServiceId = some other.id ∧
      suggestion.suggestedServiceName = some other.name

/-- The services in the list before the first one that is named like this one. -/
def listedBefore (lower : String → String) (services : List ServiceOption)
    (service : ServiceOption) : List ServiceOption :=
  services.takeWhile fun other => lower other.name ≠ lower service.name

theorem occursIn_self (text : String) : occursIn text text = true :=
  decide_eq_true (List.infix_refl _)

theorem suggestsNamed_iff_find {complete : String → List String → Option String}
    (exact : complete text (services.map ServiceOption.name) = some service.name) :
    SuggestsNamed lower services service (aiSuggestService lower complete text services) ↔
      ∃ other ∈ services.find? fun other => occursIn (lower other.name) (lower service.name),
        decide (lower other.name = lower service.name) = true := by
  simp only [aiSuggestService, exact, Option.bind_eq_bind, Option.bind_some, decide_eq_true_eq]
  cases found : services.find? fun other => occursIn (lower other.name) (lower service.name) with
  | none => simp [SuggestsNamed]
  | some named =>
      have member : named ∈ services := List.mem_of_find?_eq_some found
      constructor
      · rintro ⟨other, _, same, _, ⟨⟩, _, name⟩
        exact ⟨named, rfl, Option.some.inj name ▸ same⟩
      · rintro ⟨_, ⟨⟩, same⟩
        exact ⟨named, member, same, _, rfl, rfl, rfl⟩

/-- When the stripped reply is the name of a service, the suggestion has that name exactly when no
service before the first of that name has a name that is part of it. -/
theorem exact_reply_honoured_iff (lower strip : String → String)
    (reply : String → List String → Option String) (text : String) (member : service ∈ services)
    (exact : (reply text (services.map ServiceOption.name)).map strip = some service.name) :
    SuggestsNamed lower services service
        (aiSuggestService lower (fun text names => (reply text names).map strip) text services) ↔
      ∀ other ∈ listedBefore lower services service,
        occursIn (lower other.name) (lower service.name) = false := by
  rw [suggestsNamed_iff_find exact, find?_meets_iff]
  · simp only [listedBefore, decide_not]
  · intro other _ same
    rw [of_decide_eq_true same]
    exact occursIn_self _
  · exact ⟨service, member, decide_eq_true rfl⟩

/-- `str.strip` on letters, spaces and line ends. -/
def asciiStrip (text : String) : String :=
  String.ofList ((text.toList.dropWhile Char.isWhitespace).rdropWhile Char.isWhitespace)

def buildingReply (_ : String) (_ : List String) : Option String := some " Building permit\n"

def buildingPermit : ServiceOption := ⟨2, "Building permit", none⟩

theorem exact_reply_honoured_iff_building :
    SuggestsNamed asciiLower [buildingPermit, ⟨1, "Permit", none⟩] buildingPermit
        (aiSuggestService asciiLower (fun text names => (buildingReply text names).map asciiStrip)
          "I build" [buildingPermit, ⟨1, "Permit", none⟩]) ↔
      ∀ other ∈ listedBefore asciiLower [buildingPermit, ⟨1, "Permit", none⟩] buildingPermit,
        occursIn (asciiLower other.name) (asciiLower buildingPermit.name) = false :=
  exact_reply_honoured_iff asciiLower asciiStrip buildingReply "I build" List.mem_cons_self
    (by decide +kernel)

/-- With the shorter name first, the model's answer is lost. -/
theorem building_permit_lost :
    (buildingReply "I build" ["Permit", "Building permit"]).map asciiStrip =
        some buildingPermit.name ∧
      ¬ SuggestsNamed asciiLower [⟨1, "Permit", none⟩, buildingPermit] buildingPermit
        (aiSuggestService asciiLower (fun text names => (buildingReply text names).map asciiStrip)
          "I build" [⟨1, "Permit", none⟩, buildingPermit]) := by
  refine ⟨by decide +kernel, ?_⟩
  rintro ⟨other, _, same, suggestion, answered, _, name⟩
  have suggested : aiSuggestService asciiLower
      (fun text names => (buildingReply text names).map asciiStrip) "I build"
        [⟨1, "Permit", none⟩, buildingPermit] = some ⟨some 1, some "Permit", 9 / 10⟩ := by
    decide +kernel
  rw [suggested] at answered
  obtain rfl := Option.mem_some_iff.mp answered
  rw [← Option.some.inj name] at same
  exact absurd same (by decide +kernel)

end QueueFlow.Reading
