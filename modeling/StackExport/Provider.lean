import StackExport.Text.Quoted
/-!
The head of a configuration: which provider it needs and how the provider is set up.
-/
namespace StackExport.Provider

/-- Why the provider cannot be set up. -/
inductive ConfigError where
  | missingRegion
deriving DecidableEq, Repr

/-- The message for a provider that cannot be set up. -/
def ConfigError.message : ConfigError → String
  | .missingRegion => "an AWS region must be set for the provider block"

/-- The part that tags all resources with the name of their stack. -/
def defaultTags : Option String → String
  | some stackName =>
    "  default_tags \x7b\n    tags = \x7b\n      \"terraform:stack_name\" = " ++
      Text.quote stackName ++ "\n    \x7d\n  \x7d\n"
  | none => ""

def block (region : String) (tag : Option String) : Except ConfigError String :=
  if region.isEmpty then .error .missingRegion
  else
    .ok ("terraform \x7b\n  required_providers \x7b\n    aws = \x7b\n      " ++
      "source = \"hashicorp/aws\"\n    \x7d\n  \x7d\n\x7d\n\nprovider \"aws\" \x7b\n  region = " ++
      Text.quote region ++ "\n" ++ defaultTags tag ++ "\x7d\n\n")

end StackExport.Provider
