import BinapiGenerator.Strings
import BinapiGenerator.Schema
import BinapiGenerator.Comment
import BinapiGenerator.Field
import BinapiGenerator.StructTag
import BinapiGenerator.Message
import BinapiGenerator.Union
import BinapiGenerator.Enum
import BinapiGenerator.Service
import BinapiGenerator.Package
