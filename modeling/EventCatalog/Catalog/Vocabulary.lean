/-
# EventCatalog.Catalog.Vocabulary — the closed sets of words

Five columns of the catalogue hold one of a few words.  Each word has the literal that
documents store and a short form for searching; both are read without regard to letter
case, and nothing else is.

`Vocabulary.read?_literal` states that every word is read from its literal, so no earlier
word of its vocabulary has that literal for a literal or a short form.
-/
import EventCatalog.Text.Letters

set_option autoImplicit false

namespace EventCatalog

/-- Who may take part in an event. -/
inductive AgeGroup where
  | kids
  | everyone
  | teen
  | mature
  | drinking
  deriving DecidableEq, Repr

/-- What an event is. -/
inductive EventType where
  | seminar
  | misfit
  | entertainment
  | rolePlaying
  | boardGame
  | cardGame
  | workshop
  | miniatureHobby
  | liveRolePlaying
  | tradeDay
  | historicalMiniatures
  | otherMiniatures
  | tradableCardGame
  | film
  | kids
  | anime
  deriving DecidableEq, Repr

/-- How well players know the game. -/
inductive Experience where
  | novice
  | familiar
  | expert
  deriving DecidableEq, Repr

/-- Who may register for an event. -/
inductive Registration where
  | everyone
  | ticketless
  | vig
  | invited
  deriving DecidableEq, Repr

/-- Whether the convention gives an event a special place. -/
inductive Category where
  | standard
  | official
  | premier
  deriving DecidableEq, Repr

/-- A closed set of words. -/
inductive Vocabulary where
  | ageGroup
  | eventType
  | experience
  | registration
  | category
  deriving DecidableEq, Repr

namespace Vocabulary

/-- The words of a vocabulary. -/
abbrev Member : Vocabulary → Type
  | .ageGroup => AgeGroup
  | .eventType => EventType
  | .experience => Experience
  | .registration => Registration
  | .category => Category

instance : (v : Vocabulary) → DecidableEq v.Member
  | .ageGroup => inferInstanceAs (DecidableEq AgeGroup)
  | .eventType => inferInstanceAs (DecidableEq EventType)
  | .experience => inferInstanceAs (DecidableEq Experience)
  | .registration => inferInstanceAs (DecidableEq Registration)
  | .category => inferInstanceAs (DecidableEq Category)

/-- The name of a vocabulary in messages. -/
def name : Vocabulary → String
  | .ageGroup => "AgeGroup"
  | .eventType => "EventType"
  | .experience => "Experience"
  | .registration => "Registration"
  | .category => "Category"

/-- Every word of a vocabulary. -/
def members : (v : Vocabulary) → List v.Member
  | .ageGroup => [.kids, .everyone, .teen, .mature, .drinking]
  | .eventType =>
    [.seminar, .misfit, .entertainment, .rolePlaying, .boardGame, .cardGame, .workshop,
     .miniatureHobby, .liveRolePlaying, .tradeDay, .historicalMiniatures, .otherMiniatures,
     .tradableCardGame, .film, .kids, .anime]
  | .experience => [.novice, .familiar, .expert]
  | .registration => [.everyone, .ticketless, .vig, .invited]
  | .category => [.standard, .official, .premier]

/-- The text of a word in documents. -/
def literal : (v : Vocabulary) → v.Member → String
  | .ageGroup, .kids => "Kids only (12 and under)"
  | .ageGroup, .everyone => "Everyone (6+)"
  | .ageGroup, .teen => "Teen (13+)"
  | .ageGroup, .mature => "Mature (18+)"
  | .ageGroup, .drinking => "21+"
  | .eventType, .seminar => "SEM - Seminar"
  | .eventType, .misfit => "ZED - Isle of Misfit Events"
  | .eventType, .entertainment => "ENT - Entertainment Events"
  | .eventType, .rolePlaying => "RPG - Role Playing Game"
  | .eventType, .boardGame => "BGM - Board Game"
  | .eventType, .cardGame => "CGM - Non-Collectible / Tradable Card Game"
  | .eventType, .workshop => "WKS - Workshop"
  | .eventType, .miniatureHobby => "MHE - Miniature Hobby Events"
  | .eventType, .liveRolePlaying => "LRP - LARP"
  | .eventType, .tradeDay => "TRD - Trade Day Event"
  | .eventType, .historicalMiniatures => "HMN - Historical Miniatures"
  | .eventType, .otherMiniatures => "NMN - Non-Historical Miniatures"
  | .eventType, .tradableCardGame => "TCG - Tradable Card Game"
  | .eventType, .film => "FLM - Film Fest"
  | .eventType, .kids => "KID - Kids Activities"
  | .eventType, .anime => "ANI - Anime Activities"
  | .experience, .novice => "None (You've never played before - rules will be taught)"
  | .experience, .familiar => "Some (You've played it a bit and understand the basics)"
  | .experience, .expert => "Expert (You play it regularly and know all the rules)"
  | .registration, .everyone =>
    "Yes, they can register for this round without having played in any other events"
  | .registration, .ticketless => "No, this event does not require tickets!"
  | .registration, .vig => "VIG-only!"
  | .registration, .invited => "No, this event is invite-only."
  | .category, .standard => "None"
  | .category, .official => "Gen Con presents"
  | .category, .premier => "Premier Event"

/-- The short form of a word in searches. -/
def shortForm : (v : Vocabulary) → v.Member → String
  | .ageGroup, .kids => "kids"
  | .ageGroup, .everyone => "everyone"
  | .ageGroup, .teen => "teen"
  | .ageGroup, .mature => "mature"
  | .ageGroup, .drinking => "drinking"
  | .eventType, .seminar => "SEM"
  | .eventType, .misfit => "ZED"
  | .eventType, .entertainment => "ENT"
  | .eventType, .rolePlaying => "RPG"
  | .eventType, .boardGame => "BGM"
  | .eventType, .cardGame => "CGM"
  | .eventType, .workshop => "WKS"
  | .eventType, .miniatureHobby => "MHE"
  | .eventType, .liveRolePlaying => "LRP"
  | .eventType, .tradeDay => "TRD"
  | .eventType, .historicalMiniatures => "HMN"
  | .eventType, .otherMiniatures => "NMN"
  | .eventType, .tradableCardGame => "TCG"
  | .eventType, .film => "FLM"
  | .eventType, .kids => "KID"
  | .eventType, .anime => "ANI"
  | .experience, .novice => "none"
  | .experience, .familiar => "some"
  | .experience, .expert => "expert"
  | .registration, .everyone => "open"
  | .registration, .ticketless => "free"
  | .registration, .vig => "vig"
  | .registration, .invited => "invite"
  | .category, .standard => "none"
  | .category, .official => "official"
  | .category, .premier => "premier"

/-- Whether a text is a word's literal or short form. -/
def names (v : Vocabulary) (m : v.Member) (s : String) : Bool :=
  Text.sameLetters (v.literal m) s || Text.sameLetters (v.shortForm m) s

/-- The word with a literal or a short form. -/
def read? (v : Vocabulary) (s : String) : Option v.Member :=
  v.members.find? fun m => v.names m s

theorem mem_members : ∀ (v : Vocabulary) (m : v.Member), m ∈ v.members
  | .ageGroup, m => by cases m <;> decide
  | .eventType, m => by cases m <;> decide
  | .experience, m => by cases m <;> decide
  | .registration, m => by cases m <;> decide
  | .category, m => by cases m <;> decide

/-- A word is read from its literal. -/
theorem read?_literal : ∀ (v : Vocabulary) (m : v.Member), v.read? (v.literal m) = some m
  | .ageGroup, m => by cases m <;> decide
  | .eventType, m => by cases m <;> decide
  | .experience, m => by cases m <;> decide
  | .registration, m => by cases m <;> decide
  | .category, m => by cases m <;> decide

end Vocabulary

end EventCatalog
