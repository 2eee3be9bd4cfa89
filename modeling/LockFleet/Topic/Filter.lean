import LockFleet.Text.Levels
import LockFleet.Topic.Basic

/-!
This module contains the filters that a client subscribes to. A filter stands for the topics that it
matches level by level, where two levels of it are special: `+` stands for any one level, and `#` at
the end for any number of levels, none included.
-/

namespace LockFleet.Topic.Filter

def anyLevel : List Char := ['+']

def anyRest : List Char := ['#']

def matchesLevels : (filter topic : List (List Char)) → Bool
  | [], [] => true
  | f :: fs, [] => f == anyRest && fs.isEmpty
  | f :: fs, t :: ts =>
    (f == anyRest && fs.isEmpty) || ((f == anyLevel || f == t) && matchesLevels fs ts)
  | [], _ :: _ => false

/--
Whether a topic is one of those that the broker keeps for itself, which no filter that begins with a
special level stands for.
-/
def isReserved (topic : List Char) : Bool :=
  topic.head? == some '$'

def beginsSpecial (filter : List Char) : Bool :=
  filter.head? == some '+' || filter.head? == some '#'

def accepts (filter topic : String) : Bool :=
  !(isReserved topic.toList && beginsSpecial filter.toList)
    && matchesLevels (Text.levels filter.toList) (Text.levels topic.toList)

end LockFleet.Topic.Filter
