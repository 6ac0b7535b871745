/-!
Why a text is not a YAML document that can be read, or a value cannot be written.
-/

namespace PackageRecipe.Yaml

inductive Error where
  | controlCharacter
  | unexpectedCharacter
  | missingColon
  | misplacedEntry
  | misplacedKey
  | misplacedValue
  | malformedDirective
  | malformedAnchor
  | malformedTag
  | malformedBlock
  | malformedQuoted
  | malformedPlain
  | tabIndentation
  | incompatibleVersion
  | repeatedDirective
  | undefinedTagHandle
  | unexpectedToken
  | severalDocuments
  | unknownAnchor
  | tooManyAliases
  | tooDeep
  | repeatedKey
  | integerOutOfRange
  | malformedScalar
  | unwritableTag
  deriving DecidableEq, Repr

def Error.message : Error → String
  | .controlCharacter => "control characters are not allowed"
  | .unexpectedCharacter => "found character that cannot start any token"
  | .missingColon => "could not find expected ':'"
  | .misplacedEntry => "block sequence entries are not allowed in this context"
  | .misplacedKey => "mapping keys are not allowed in this context"
  | .misplacedValue => "mapping values are not allowed in this context"
  | .malformedDirective => "found an invalid directive"
  | .malformedAnchor => "did not find expected alphabetic or numeric character"
  | .malformedTag => "did not find expected tag"
  | .malformedBlock => "found an invalid block scalar"
  | .malformedQuoted => "found an invalid quoted scalar"
  | .malformedPlain => "found an invalid plain scalar"
  | .tabIndentation => "found a tab character where an indentation space is expected"
  | .incompatibleVersion => "found incompatible YAML document"
  | .repeatedDirective => "found duplicate directive"
  | .undefinedTagHandle => "found undefined tag handle"
  | .unexpectedToken => "did not find expected node content"
  | .severalDocuments => "found more than one document"
  | .unknownAnchor => "unknown anchor"
  | .tooManyAliases => "repetition limit exceeded"
  | .tooDeep => "recursion limit exceeded"
  | .repeatedKey => "duplicate entry in mapping"
  | .integerOutOfRange => "integer out of range"
  | .malformedScalar => "scalar does not have the form that its tag asks for"
  | .unwritableTag => "tag cannot be written"

end PackageRecipe.Yaml
