import SourceLint.Language.Basic

set_option autoImplicit false

/-!
# Comments that are kept

Some comments are there on purpose, whatever they say: those that carry a reserved marker such as
`TODO`, and those that steer a tool. No comment rule speaks of them.

A marker counts only as a whole word and in capitals: a word character on either side makes it part
of another word.

## Main definitions

* `Comment.markers` — the reserved markers.
* `Comment.hasMarker` — whether a text carries one as a whole word.
* `Comment.isKept` — whether a comment is exempt from every comment rule.
-/

namespace SourceLint.Comment

/-- The reserved markers. -/
def markers : List String :=
  ["TODO", "FIXME", "HACK", "NOTE", "SAFETY", "WARN", "BUG", "XXX", "PERF", "IMPORTANT", "LICENSE",
    "COPYRIGHT"]

/-- Whether a text is at its end or goes on with something that is no word character. -/
def endsWord : List Char → Bool
  | [] => true
  | c :: _ => !Text.isWord c

/-- Whether a text starts with a marker that no word character follows. -/
def startsWithMarker (cs : List Char) : Bool :=
  markers.any fun marker =>
    marker.toList.isPrefixOf cs && endsWord (cs.drop marker.toList.length)

/-- Whether the rest of a text carries a marker as a whole word; `inWord` says whether a word
character stands before it. -/
def hasMarkerFrom (inWord : Bool) : List Char → Bool
  | [] => false
  | c :: cs => (!inWord && startsWithMarker (c :: cs)) || hasMarkerFrom (Text.isWord c) cs

/-- Whether a text carries a reserved marker as a whole word. -/
def hasMarker (cs : List Char) : Bool :=
  hasMarkerFrom false cs

/-- Whether a text steers a tool of the language. -/
def isToolDirective (language : Language) (cs : List Char) : Bool :=
  language.toolDirectives.occurIn cs

/-- Whether a comment is exempt from every comment rule. -/
def isKept (language : Language) (cs : List Char) : Bool :=
  hasMarker cs || isToolDirective language cs

end SourceLint.Comment
