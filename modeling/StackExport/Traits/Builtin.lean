import StackExport.Traits
/-!
The emission rules that are in force unless a table is given.
-/
namespace StackExport

namespace Traits

/-- Names and their prefixes, which exclude each other. -/
def nameOrPrefix : List (List String) := [["name", "name_prefix"]]

def builtinEntries : List ResourceTraits :=
  [{ ResourceTraits.none "all" with
      unconfigurable := ["arn", "id", "create_date", "unique_id", "tags_all", "timeouts"]
      nonBlock := ["tags"]
      attributeMap := [("Arn", "arn")] },
   { ResourceTraits.none "aws_instance" with
      unconfigurable :=
        ["instance_state", "outpost_arn", "password_data", "primary_network_interface_id",
          "private_dns", "public_dns", "public_ip", "ipv6_addresses",
          "root_block_device.*.device_name", "*.*.volume_id"]
      conflicts :=
        [["ipv6_addresses", "ipv6_address_count"], ["vpc_security_group_ids", "security_groups"]]
      attributeMap :=
        [("AvailabilityZone", "availability_zone"), ("PrivateDnsName", "private_dns"),
          ("PrivateIp", "private_ip"), ("PublicDnsName", "public_dns"),
          ("PublicIp", "public_ip")] },
   { ResourceTraits.none "aws_s3_bucket" with
      unconfigurable :=
        ["bucket_domain_name", "bucket_regional_domain_name", "hosted_zone_id", "region",
          "website_domain", "website_endpoint"]
      conflicts := [["bucket", "bucket_prefix"]]
      defaults := [("acl", .string "private"), ("force_destroy", .bool false)]
      attributeMap :=
        [("DomainName", "bucket_domain_name"), ("DualStackDomainName", "bucket_domain_name"),
          ("RegionalDomainName", "bucket_regional_domain_name"),
          ("WebsiteURL", "website_endpoint")] },
   { ResourceTraits.none "aws_s3_bucket_policy" with
      required := ["policy"] },
   { ResourceTraits.none "aws_security_group" with
      required :=
        ["ingress.*.description", "ingress.*.ipv6_cidr_blocks", "ingress.*.prefix_list_ids",
          "ingress.*.security_groups", "ingress.*.self", "egress.*.description",
          "egress.*.ipv6_cidr_blocks", "egress.*.prefix_list_ids", "egress.*.security_groups",
          "egress.*.self"]
      unconfigurable := ["owner_id"]
      nonBlock := ["ingress", "egress"]
      conflicts := nameOrPrefix
      attributeMap := [("GroupId", "id"), ("VpcId", "vpc_id")] },
   { ResourceTraits.none "aws_iam_role" with
      unconfigurable := ["managed_policy_arns"]
      repeatedBlock := ["inline_policy"]
      conflicts := nameOrPrefix
      attributeMap := [("RoleId", "unique_id")] },
   { ResourceTraits.none "aws_lambda_function" with
      unconfigurable :=
        ["invoke_arn", "last_modified", "qualified_arn", "qualified_invoke_arn",
          "signing_job_arn", "signing_profile_version_arn", "source_code_size", "version"]
      conflicts := [["filename", "s3_bucket", "image_uri"]]
      defaults := [("package_type", .string "Zip")]
      conditional := [⟨"publish", .bool false⟩] },
   { ResourceTraits.none "aws_dynamodb_table" with
      unconfigurable := ["stream_arn", "stream_label"]
      defaults := [("billing_mode", .string "PROVISIONED")]
      attributeMap := [("StreamArn", "stream_arn")] },
   { ResourceTraits.none "aws_sqs_queue" with
      unconfigurable := ["url"]
      conflicts := nameOrPrefix
      conditional :=
        [⟨"fifo_queue", .bool false⟩, ⟨"content_based_deduplication", .bool false⟩]
      attributeMap := [("QueueName", "name"), ("QueueUrl", "url")] },
   { ResourceTraits.none "aws_sns_topic" with
      unconfigurable := ["owner", "beginning_archive_time"]
      conflicts := nameOrPrefix
      attributeMap := [("TopicArn", "arn"), ("TopicName", "name")] },
   { ResourceTraits.none "aws_cloudwatch_log_group" with
      conflicts := nameOrPrefix
      defaults := [("retention_in_days", .number (.int 0))] }]

end Traits

/-- The built-in table. The first of its entries is the shared one. -/
def TraitTable.builtin : TraitTable where
  shared := Traits.builtinEntries.headD (.none TraitTable.sharedName)
  byType := Traits.builtinEntries.tail.map fun entry => (entry.resourceType, entry)

end StackExport
