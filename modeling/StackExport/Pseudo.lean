/-!
The pseudo parameters of a stack: what a template can say about the place where it is deployed.
-/
namespace StackExport

/-- The values of a stack's pseudo parameters. -/
structure PseudoValues where
  region : String
  accountId : String
  partition : String
  urlSuffix : String
  stackName : String
  stackId : Option String
deriving DecidableEq, Repr

namespace PseudoValues

/-- The values for a region, which decides over the partition and its domain. -/
def ofRegion (region accountId stackName : String) : PseudoValues :=
  let (partition, urlSuffix) :=
    if region.startsWith "cn-" then ("aws-cn", "amazonaws.com.cn")
    else if region.startsWith "us-gov-" then ("aws-us-gov", "amazonaws.com")
    else ("aws", "amazonaws.com")
  ⟨region, accountId, partition, urlSuffix, stackName, none⟩

def get? (p : PseudoValues) : String → Option String
  | "AWS::Region" => some p.region
  | "AWS::AccountId" => some p.accountId
  | "AWS::Partition" => some p.partition
  | "AWS::URLSuffix" => some p.urlSuffix
  | "AWS::StackName" => some p.stackName
  | "AWS::StackId" => p.stackId
  | _ => none

end PseudoValues

end StackExport
