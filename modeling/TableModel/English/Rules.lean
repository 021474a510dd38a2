import TableModel.English.Pattern

/-!
# English plurals

The words with a plural of their own, the words without a plural, and the rules for all others. A rule
says how a plural ends and what the singular has instead: `$0` stands for the whole ending and `$1` for
the first group in it.
-/

namespace TableModel.English

open Pattern

/-- Words whose plural follows no rule, each with its plural. -/
def irregular : List (Text × Text) :=
  let words : List (String × String) := [
    ("I", "we"), ("me", "us"), ("he", "they"), ("she", "they"), ("them", "them"),
    ("myself", "ourselves"), ("yourself", "yourselves"), ("itself", "themselves"),
    ("herself", "themselves"), ("himself", "themselves"), ("themself", "themselves"), ("is", "are"),
    ("was", "were"), ("has", "have"), ("this", "these"), ("that", "those"), ("my", "our"),
    ("its", "their"), ("his", "their"), ("her", "their"), ("echo", "echoes"), ("dingo", "dingoes"),
    ("volcano", "volcanoes"), ("tornado", "tornadoes"), ("torpedo", "torpedoes"),
    ("genus", "genera"), ("viscus", "viscera"), ("stigma", "stigmata"), ("stoma", "stomata"),
    ("dogma", "dogmata"), ("lemma", "lemmata"), ("schema", "schemata"), ("anathema", "anathemata"),
    ("ox", "oxen"), ("axe", "axes"), ("die", "dice"), ("yes", "yeses"), ("foot", "feet"),
    ("eave", "eaves"), ("goose", "geese"), ("tooth", "teeth"), ("quiz", "quizzes"),
    ("human", "humans"), ("proof", "proofs"), ("carve", "carves"), ("valve", "valves"),
    ("looey", "looies"), ("thief", "thieves"), ("groove", "grooves"), ("pickaxe", "pickaxes"),
    ("passerby", "passersby"), ("canvas", "canvases")]
  words.map fun (one, many) => (one.toList, many.toList)

def uncountable : List Text :=
  let words : List String := [
    "adulthood", "advice", "agenda", "aid", "aircraft", "alcohol", "ammo", "analytics", "anime",
    "athletics", "audio", "bison", "blood", "bream", "buffalo", "butter", "carp", "cash", "chassis",
    "chess", "clothing", "cod", "commerce", "cooperation", "corps", "debris", "diabetes",
    "digestion", "elk", "energy", "equipment", "excretion", "expertise", "firmware", "flounder",
    "fun", "gallows", "garbage", "graffiti", "hardware", "headquarters", "health", "herpes",
    "highjinks", "homework", "housework", "information", "jeans", "justice", "kudos", "labour",
    "literature", "machinery", "mackerel", "mail", "media", "mews", "moose", "music", "mud",
    "manga", "news", "only", "personnel", "pike", "plankton", "pliers", "police", "pollution",
    "premises", "rain", "research", "rice", "salmon", "scissors", "series", "sewage", "shambles",
    "shrimp", "software", "staff", "swine", "tennis", "traffic", "transportation", "trout", "tuna",
    "wealth", "welfare", "whiting", "wildebeest", "wildlife", "you"]
  words.map String.toList

/-- A rule: the ending of a plural, and what stands for it in the singular. -/
structure Rule where
  pattern : Pattern
  replacement : Text
  deriving Repr

def ending (pattern : Pattern) (replacement : Text) : Rule :=
  ⟨pattern ++ finish, replacement⟩

/-- The rules, from the most general to the most special one. -/
def rules : List Rule := [
  ending (letters "s") "",
  ending (group (letters "ss")) "$1",
  ending
    (group (anyOf [letters "wi", letters "kni",
        anyOf [word ["after", "half", "high", "low", "mid", "non", "night"], nonWord, start]
          ++ letters "li"])
      ++ letters "ves") "$1fe",
  ending
    (group (anyOf [letters "ar", choice (letters "wo") (oneOf "ae") ++ letters "l",
        oneOf "eo" ++ oneOf "ao"])
      ++ letters "ves") "$1f",
  ending (letters "ies") "y",
  ending
    (group (word ["dg", "ss", "ois", "lk", "ok", "wn", "mb", "th", "ch", "ec", "oal", "is", "ck", "ix",
        "sser", "ts", "wb"])
      ++ letters "ies") "$1ie",
  ending
    (boundary
      ++ group (anyOf [letters "l", optional (word ["neck", "cross", "hog", "aun"]) ++ letters "t",
        word ["coll", "faer", "food", "gen", "goon", "group", "hipp", "junk", "vegg"],
        optional (letters "pork") ++ letters "p", word ["charl", "calor", "cut"]])
      ++ letters "ies") "$1ie",
  ending (boundary ++ group (word ["mon", "smil"]) ++ letters "ies") "$1ey",
  ending
    (boundary ++ group (choice (optional (letters "tit") ++ letters "m") (letters "l"))
      ++ letters "ice") "$1ouse",
  ending (group (word ["seraph", "cherub"]) ++ letters "im") "$1",
  ending
    (group (anyOf [word ["x", "ch", "ss", "sh", "zz", "tto", "go", "cho", "alias"],
        noneOf "aou" ++ letters "us", letters "t" ++ oneOf "lm" ++ letters "as", letters "gas",
        word ["her", "at", "gr"] ++ letters "o", oneOf "aeiou" ++ letters "ris"])
      ++ optional (letters "es")) "$1",
  ending
    (group (word ["analy", "diagno", "parenthe", "progno", "synop", "the", "empha", "cri", "ne"])
      ++ word ["sis", "ses"]) "$1sis",
  ending
    (group (anyOf [word ["movie", "twelve", "abuse"], letters "e" ++ oneOf "mn" ++ letters "u"])
      ++ letters "s") "$1",
  ending (group (letters "test") ++ word ["is", "es"]) "$1is",
  ending
    (group (word ["alumn", "syllab", "vir", "radi", "nucle", "fung", "cact", "stimul", "termin",
        "bacill", "foc", "uter", "loc", "strat"])
      ++ word ["us", "i"]) "$1us",
  ending
    (group (word ["agend", "addend", "millenni", "dat", "extrem", "bacteri", "desiderat", "strat",
        "candelabr", "errat", "ov", "symposi", "curricul", "quor"])
      ++ letters "a") "$1um",
  ending
    (group (word ["apheli", "hyperbat", "periheli", "asyndet", "noumen", "phenomen", "criteri",
        "organ", "prolegomen", "hedr", "automat"])
      ++ letters "a") "$1on",
  ending (group (word ["alumn", "alg", "vertebr"]) ++ letters "ae") "$1a",
  ending (group (word ["cod", "mur", "sil", "vert", "ind"]) ++ letters "ices") "$1ex",
  ending (group (word ["matr", "append"]) ++ letters "ices") "$1ix",
  ending (group (letters "pe") ++ group (word ["rson", "ople"])) "$1rson",
  ending (group (letters "child") ++ letters "ren") "$1",
  ending (group (letters "eau") ++ optional (letters "x")) "$1",
  ending (letters "men") "man",
  ending (letters "pok" ++ oneOf "eé" ++ letters "mon") "$0",
  ending (noneOf "aeiou" ++ letters "ese") "$0",
  ending (letters "deer") "$0",
  ending (letters "fish") "$0",
  ending (letters "measles") "$0",
  ending (letters "o" ++ oneOf "iu" ++ letters "s") "$0",
  ending (letters "pox") "$0",
  ending (letters "sheep") "$0"]

end TableModel.English
