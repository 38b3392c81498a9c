import InfraPolicy.Rule.Basic
import InfraPolicy.Rule.RuleSet

/-!
# Built-in rules

The rules that hold unless a policy turns them off. They are about resources whose careless use
is a common source of leaks: public storage, data at rest that is not encrypted, ports open to
everyone.
-/

namespace InfraPolicy.Builtin

/-- A condition on one attribute, without a pattern. -/
def checking (path : String) (operator : Operator) (value : Option Value) : Condition :=
  .check ⟨path, operator, value, none⟩

/-- The block at the path lets everyone in on port 22. All three checks read the same block. -/
def opensSsh (block : String) : Condition :=
  .all
    [checking (block ++ ".from_port") .lessThan (some (.int 23)),
      checking (block ++ ".to_port") .greaterThan (some (.int 21)),
      checking (block ++ ".cidr_blocks") .contains (some (.string "0.0.0.0/0"))]

def s3Encryption : Rule :=
  { id := "S3_001"
    name := "S3 bucket encryption"
    description := "S3 buckets must declare server-side encryption."
    severity := .error
    resourceKind := "aws_s3_bucket"
    condition := checking "server_side_encryption_configuration" .exists none
    message :=
      "S3 bucket '\x7b\x7bresource_name\x7d\x7d' has no server-side encryption configured " ++
      "(\x7b\x7bfile\x7d\x7d:\x7b\x7bline\x7d\x7d)"
    remediation := "Add a server_side_encryption_configuration block using AES256 or aws:kms."
    tags := ["aws", "encryption", "s3"] }

def s3PublicAcl : Rule :=
  { id := "S3_002"
    name := "S3 bucket public ACL"
    description := "S3 buckets must not use a public canned ACL."
    severity := .error
    resourceKind := "aws_s3_bucket"
    condition := .not (checking "acl" .oneOf (some (.list
      [.string "public-read", .string "public-read-write", .string "authenticated-read"])))
    message := "S3 bucket '\x7b\x7bresource_name\x7d\x7d' uses a public ACL"
    remediation := "Use a private ACL and grant access through bucket policies."
    tags := ["aws", "public-access", "s3"] }

def s3Versioning : Rule :=
  { id := "S3_003"
    name := "S3 bucket versioning"
    description := "S3 buckets should keep object versions."
    severity := .warning
    resourceKind := "aws_s3_bucket"
    condition := checking "versioning.enabled" .equals (some (.bool true))
    message := "S3 bucket '\x7b\x7bresource_name\x7d\x7d' does not enable versioning"
    remediation := "Add a versioning block with enabled = true."
    tags := ["aws", "backup", "s3"] }

def openSsh : Rule :=
  { id := "SG_001"
    name := "Security group open SSH"
    description :=
      "Security groups must not have an ingress block whose port range covers 22 and whose " ++
      "cidr_blocks include 0.0.0.0/0. Checks a single ingress block or the first four of a " ++
      "repeated one."
    severity := .error
    resourceKind := "aws_security_group"
    condition :=
      .not (.any
        (["ingress", "ingress[0]", "ingress[1]", "ingress[2]", "ingress[3]"].map opensSsh))
    message := "Security group '\x7b\x7bresource_name\x7d\x7d' allows SSH from 0.0.0.0/0"
    remediation := "Restrict SSH ingress to known CIDR ranges or use a bastion or SSM."
    tags := ["aws", "network", "ssh"] }

def securityGroupDescription : Rule :=
  { id := "SG_002"
    name := "Security group description"
    description := "Security groups should describe their purpose."
    severity := .info
    resourceKind := "aws_security_group"
    condition := checking "description" .exists none
    message := "Security group '\x7b\x7bresource_name\x7d\x7d' has no description"
    remediation := "Set a description explaining what the group is for."
    tags := ["aws", "hygiene", "network"] }

def databaseEncryption : Rule :=
  { id := "RDS_001"
    name := "RDS storage encryption"
    description := "Database instances must encrypt their storage."
    severity := .error
    resourceKind := "aws_db_instance"
    condition := checking "storage_encrypted" .equals (some (.bool true))
    message := "Database '\x7b\x7bresource_name\x7d\x7d' does not encrypt its storage"
    remediation := "Set storage_encrypted = true (requires recreating existing instances)."
    tags := ["aws", "encryption", "rds"] }

def databasePublicAccess : Rule :=
  { id := "RDS_002"
    name := "RDS public access"
    description := "Database instances must not be publicly accessible."
    severity := .error
    resourceKind := "aws_db_instance"
    condition := checking "publicly_accessible" .notEquals (some (.bool true))
    message := "Database '\x7b\x7bresource_name\x7d\x7d' is publicly accessible"
    remediation :=
      "Set publicly_accessible = false and reach the database through private networking."
    tags := ["aws", "public-access", "rds"] }

def databaseBackups : Rule :=
  { id := "RDS_003"
    name := "RDS backup retention"
    description := "Database instances should keep automated backups for at least a week."
    severity := .warning
    resourceKind := "aws_db_instance"
    condition := checking "backup_retention_period" .greaterThan (some (.int 6))
    message := "Database '\x7b\x7bresource_name\x7d\x7d' keeps backups for less than 7 days"
    remediation := "Set backup_retention_period to 7 or more."
    tags := ["aws", "backup", "rds"] }

def volumeEncryption : Rule :=
  { id := "EBS_001"
    name := "EBS volume encryption"
    description := "EBS volumes must be encrypted."
    severity := .error
    resourceKind := "aws_ebs_volume"
    condition := checking "encrypted" .equals (some (.bool true))
    message := "EBS volume '\x7b\x7bresource_name\x7d\x7d' is not encrypted"
    remediation := "Set encrypted = true, optionally with a customer-managed kms_key_id."
    tags := ["aws", "ebs", "encryption"] }

def instanceMetadata : Rule :=
  { id := "EC2_001"
    name := "EC2 instance metadata v2"
    description := "Instances should require IMDSv2 session tokens."
    severity := .warning
    resourceKind := "aws_instance"
    condition := checking "metadata_options.http_tokens" .equals (some (.string "required"))
    message := "Instance '\x7b\x7bresource_name\x7d\x7d' does not require IMDSv2"
    remediation := "Add metadata_options \x7b http_tokens = \"required\" \x7d."
    tags := ["aws", "ec2", "imds"] }

def instanceTagging : Rule :=
  { id := "EC2_002"
    name := "EC2 instance tagging"
    description := "Instances should carry an Environment tag."
    severity := .info
    resourceKind := "aws_instance"
    condition := checking "tags.Environment" .exists none
    message := "Instance '\x7b\x7bresource_name\x7d\x7d' has no Environment tag"
    remediation := "Add an Environment entry to tags."
    tags := ["aws", "ec2", "tagging"] }

def trailValidation : Rule :=
  { id := "CT_001"
    name := "CloudTrail log validation"
    description := "CloudTrail trails must validate log file integrity."
    severity := .warning
    resourceKind := "aws_cloudtrail"
    condition := checking "enable_log_file_validation" .equals (some (.bool true))
    message := "CloudTrail '\x7b\x7bresource_name\x7d\x7d' does not validate log files"
    remediation := "Set enable_log_file_validation = true."
    tags := ["aws", "cloudtrail", "logging"] }

def keyRotation : Rule :=
  { id := "KMS_001"
    name := "KMS key rotation"
    description := "Customer-managed KMS keys must rotate automatically."
    severity := .warning
    resourceKind := "aws_kms_key"
    condition := checking "enable_key_rotation" .equals (some (.bool true))
    message := "KMS key '\x7b\x7bresource_name\x7d\x7d' does not rotate"
    remediation := "Set enable_key_rotation = true."
    tags := ["aws", "encryption", "kms"] }

def listenerTls : Rule :=
  { id := "LB_001"
    name := "Load balancer listener TLS"
    description := "Load balancer listeners should not serve plain HTTP."
    severity := .warning
    resourceKind := "aws_lb_listener"
    condition := checking "protocol" .notEquals (some (.string "HTTP"))
    message := "Listener '\x7b\x7bresource_name\x7d\x7d' serves plain HTTP"
    remediation := "Use HTTPS with a certificate, and redirect HTTP to HTTPS."
    tags := ["aws", "elb", "tls"] }

def wildcardActions : Rule :=
  { id := "IAM_001"
    name := "IAM wildcard actions"
    description := "IAM policies should not grant every action."
    severity := .error
    resourceKind := "aws_iam_policy"
    condition := checking "policy" .notContains (some (.string "\"Action\": \"*\""))
    message := "IAM policy '\x7b\x7bresource_name\x7d\x7d' grants all actions"
    remediation := "List the specific actions the principal needs."
    tags := ["aws", "iam", "least-privilege"] }

/-- The rules that come with the program, in the order in which they are listed. -/
def rules : List Rule :=
  [s3Encryption, s3PublicAcl, s3Versioning, openSsh,
    securityGroupDescription, databaseEncryption, databasePublicAccess, databaseBackups,
    volumeEncryption, instanceMetadata, instanceTagging, trailValidation,
    keyRotation, listenerTls, wildcardActions]

/-- The built-in rules with their version. -/
def ruleSet : RuleSet :=
  ⟨some { major := 1, minor := 0, patch := 0 }, rules⟩

end InfraPolicy.Builtin
