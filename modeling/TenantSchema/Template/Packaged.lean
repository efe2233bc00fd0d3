import TenantSchema.Text.Basic

/-!
# The packaged template

The script that a tenant's database is built from unless another one is named, and the
configuration that names it.
-/

namespace TenantSchema.Template

/-- Lines with a newline after each. -/
def document (lines : List String) : Text :=
  lines.flatMap fun line => line.toList ++ ['\n']

/-- The packaged script, line by line. -/
def packagedLines : List String :=
  [
    "-- Tenant schema template",
    "-- Statements follow the layout of a mysqldump export; tables are listed alphabetically,",
    "-- not in foreign-key order. `__database_name__` is replaced with the tenant database name.",
    "",
    "/*!40101 SET @OLD_CHARACTER_SET_CLIENT=@@CHARACTER_SET_CLIENT */;",
    "/*!40101 SET NAMES utf8mb4 */;",
    "/*!40014 SET @OLD_FOREIGN_KEY_CHECKS=@@FOREIGN_KEY_CHECKS, FOREIGN_KEY_CHECKS=1 */;",
    "",
    "CREATE DATABASE IF NOT EXISTS `__database_name__` /*!40100 DEFAULT CHARACTER SET utf8mb4 */;",
    "USE `__database_name__`;",
    "",
    "--",
    "-- Table structure for table `attendance`",
    "--",
    "",
    "DROP TABLE IF EXISTS `attendance`;",
    "/*!40101 SET @saved_cs_client     = @@character_set_client */;",
    "/*!40101 SET character_set_client = utf8mb4 */;",
    "CREATE TABLE `attendance` (",
    "  `attendance_id` bigint NOT NULL AUTO_INCREMENT,",
    "  `employee_id` bigint NOT NULL,",
    "  `attendance_day` date NOT NULL,",
    "  `status` varchar(20) NOT NULL DEFAULT 'present',",
    "  PRIMARY KEY (`attendance_id`),",
    "  KEY `fk_attendance_employee_idx` (`employee_id`),",
    "  CONSTRAINT `fk_attendance_employee` FOREIGN KEY (`employee_id`) REFERENCES `employees` (`employee_id`)",
    ") ENGINE=InnoDB DEFAULT CHARSET=utf8mb4;",
    "/*!40101 SET character_set_client = @saved_cs_client */;",
    "",
    "--",
    "-- Table structure for table `company`",
    "--",
    "",
    "DROP TABLE IF EXISTS `company`;",
    "CREATE TABLE `company` (",
    "  `company_id` int NOT NULL AUTO_INCREMENT,",
    "  `organization_id` int NOT NULL,",
    "  `company_name` varchar(150) NOT NULL,",
    "  `gst_no` varchar(30) DEFAULT NULL,",
    "  PRIMARY KEY (`company_id`),",
    "  CONSTRAINT `fk_company_organization` FOREIGN KEY (`organization_id`) REFERENCES `organization` (`organization_id`)",
    ") ENGINE=InnoDB DEFAULT CHARSET=utf8mb4;",
    "",
    "--",
    "-- Table structure for table `department`",
    "--",
    "",
    "DROP TABLE IF EXISTS `department`;",
    "CREATE TABLE `department` (",
    "  `department_id` int NOT NULL AUTO_INCREMENT,",
    "  `company_id` int NOT NULL,",
    "  `department_name` varchar(100) NOT NULL,",
    "  `parent_department_id` int DEFAULT NULL,",
    "  PRIMARY KEY (`department_id`),",
    "  CONSTRAINT `fk_department_company` FOREIGN KEY (`company_id`) REFERENCES `company` (`company_id`),",
    "  CONSTRAINT `fk_department_parent` FOREIGN KEY (`parent_department_id`) REFERENCES `department` (`department_id`)",
    ") ENGINE=InnoDB DEFAULT CHARSET=utf8mb4;",
    "",
    "--",
    "-- Table structure for table `employees`",
    "--",
    "",
    "DROP TABLE IF EXISTS `employees`;",
    "CREATE TABLE `employees` (",
    "  `employee_id` bigint NOT NULL AUTO_INCREMENT,",
    "  `company_id` int NOT NULL,",
    "  `department_id` int DEFAULT NULL,",
    "  `first_name` varchar(80) NOT NULL,",
    "  `last_name` varchar(80) DEFAULT NULL,",
    "  `email` varchar(150) NOT NULL,",
    "  `reporting_manager_id` bigint DEFAULT NULL,",
    "  PRIMARY KEY (`employee_id`),",
    "  UNIQUE KEY `uq_employees_email` (`email`),",
    "  CONSTRAINT `fk_employees_company` FOREIGN KEY (`company_id`) REFERENCES `company` (`company_id`),",
    "  CONSTRAINT `fk_employees_department` FOREIGN KEY (`department_id`) REFERENCES `department` (`department_id`),",
    "  CONSTRAINT `fk_employees_manager` FOREIGN KEY (`reporting_manager_id`) REFERENCES `employees` (`employee_id`)",
    ") ENGINE=InnoDB DEFAULT CHARSET=utf8mb4;",
    "",
    "--",
    "-- Table structure for table `leave_request`",
    "--",
    "",
    "DROP TABLE IF EXISTS `leave_request`;",
    "CREATE TABLE `leave_request` (",
    "  `leave_request_id` bigint NOT NULL AUTO_INCREMENT,",
    "  `employee_id` bigint NOT NULL,",
    "  `leave_type_id` int NOT NULL,",
    "  `from_date` date NOT NULL,",
    "  `to_date` date NOT NULL,",
    "  `approver_id` bigint DEFAULT NULL,",
    "  PRIMARY KEY (`leave_request_id`),",
    "  CONSTRAINT `fk_leave_request_employee` FOREIGN KEY (`employee_id`) REFERENCES `employees` (`employee_id`),",
    "  CONSTRAINT `fk_leave_request_type` FOREIGN KEY (`leave_type_id`) REFERENCES `leave_type` (`leave_type_id`),",
    "  CONSTRAINT `fk_leave_request_approver` FOREIGN KEY (`approver_id`) REFERENCES `employees` (`employee_id`)",
    ") ENGINE=InnoDB DEFAULT CHARSET=utf8mb4;",
    "",
    "--",
    "-- Table structure for table `leave_type`",
    "--",
    "",
    "DROP TABLE IF EXISTS `leave_type`;",
    "CREATE TABLE `leave_type` (",
    "  `leave_type_id` int NOT NULL AUTO_INCREMENT,",
    "  `leave_name` varchar(60) NOT NULL,",
    "  `days_per_year` int NOT NULL DEFAULT '0',",
    "  PRIMARY KEY (`leave_type_id`)",
    ") ENGINE=InnoDB DEFAULT CHARSET=utf8mb4;",
    "",
    "--",
    "-- Dumping data for table `leave_type`",
    "--",
    "",
    "LOCK TABLES `leave_type` WRITE;",
    "INSERT INTO `leave_type` VALUES (1,'Casual',12),(2,'Sick',10),(3,'Earned',15);",
    "UNLOCK TABLES;",
    "",
    "--",
    "-- Table structure for table `organization`",
    "--",
    "",
    "DROP TABLE IF EXISTS `organization`;",
    "CREATE TABLE `organization` (",
    "  `organization_id` int NOT NULL AUTO_INCREMENT,",
    "  `organization_name` varchar(150) NOT NULL,",
    "  `timezone_name` varchar(60) NOT NULL DEFAULT 'UTC',",
    "  `created_on` datetime NOT NULL DEFAULT CURRENT_TIMESTAMP,",
    "  PRIMARY KEY (`organization_id`)",
    ") ENGINE=InnoDB DEFAULT CHARSET=utf8mb4;",
    "",
    "--",
    "-- Table structure for table `user_login`",
    "--",
    "",
    "DROP TABLE IF EXISTS `user_login`;",
    "CREATE TABLE `user_login` (",
    "  `user_id` bigint NOT NULL,",
    "  `email` varchar(150) NOT NULL,",
    "  `password` varchar(255) NOT NULL,",
    "  `role_id` int NOT NULL,",
    "  PRIMARY KEY (`user_id`),",
    "  CONSTRAINT `fk_user_login_employee` FOREIGN KEY (`user_id`) REFERENCES `employees` (`employee_id`)",
    ") ENGINE=InnoDB DEFAULT CHARSET=utf8mb4;",
    "",
    "--",
    "-- Dumping routines for database '__database_name__'",
    "--",
    "/*!50003 DROP PROCEDURE IF EXISTS `sp_new_registration` */;",
    "/*!50003 SET @saved_cs_client      = @@character_set_client */ ;",
    "DELIMITER ;;",
    "CREATE PROCEDURE `sp_new_registration`(",
    "    IN _OrganizationName varchar(150),",
    "    IN _CompanyName varchar(150),",
    "    IN _EmailId varchar(150),",
    "    IN _FirstName varchar(80),",
    "    IN _LastName varchar(80),",
    "    OUT _ProcessingResult varchar(100)",
    ")",
    "BEGIN",
    "    DECLARE _OrganizationId int DEFAULT 0;",
    "    DECLARE _CompanyId int DEFAULT 0;",
    "",
    "    INSERT INTO organization (organization_name) VALUES (_OrganizationName);",
    "    SET _OrganizationId = LAST_INSERT_ID();",
    "",
    "    INSERT INTO company (organization_id, company_name) VALUES (_OrganizationId, _CompanyName);",
    "    SET _CompanyId = LAST_INSERT_ID();",
    "",
    "    INSERT INTO employees (company_id, first_name, last_name, email)",
    "    VALUES (_CompanyId, _FirstName, _LastName, _EmailId);",
    "",
    "    SET _ProcessingResult = 'inserted';",
    "END ;;",
    "DELIMITER ;",
    "",
    "/*!40101 SET CHARACTER_SET_CLIENT=@OLD_CHARACTER_SET_CLIENT */;",
    "/*!40014 SET FOREIGN_KEY_CHECKS=@OLD_FOREIGN_KEY_CHECKS */;"
  ]

/-- The packaged script. -/
def packaged : Text :=
  document packagedLines

/-- The packaged configuration, line by line. -/
def packagedConfigLines : List String :=
  [
    "provisioning:",
    "  template_path: sql/templates/tenant_schema.sql",
    "  database_placeholder: __database_name__",
    "  statement_preview_chars: 120"
  ]

/-- The packaged configuration. -/
def packagedConfig : Text :=
  document packagedConfigLines

end TenantSchema.Template
