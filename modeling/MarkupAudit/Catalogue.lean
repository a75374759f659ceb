import MarkupAudit.Rule.Registry
import MarkupAudit.Rules.Attributes
import MarkupAudit.Rules.Fields
import MarkupAudit.Rules.Head
import MarkupAudit.Rules.Images
import MarkupAudit.Rules.Languages
import MarkupAudit.Rules.Links
import MarkupAudit.Rules.Lists
import MarkupAudit.Rules.Media
import MarkupAudit.Rules.Obsolete
import MarkupAudit.Rules.Roles
import MarkupAudit.Rules.Sections
import MarkupAudit.Rules.Tables

/-!
# The catalogue

All rules that documents are judged by, in the order in which they are run.
-/

namespace MarkupAudit.Catalogue

open Rules

def advice : RuleGroup where
  category := .advice
  rules :=
      [requiredSelectHasEmptyFirstOption, classAttributeNotEmpty, idAttributeNotEmpty,
        onlyOneVisibleMain, onlyOneFigcaption, figcaptionIsFirstOrLastChild, mailtoLinksAreValid,
        telLinksAreValid, faxLinksAreValid, modemLinksAreValid, noButtonRoleOnLinks,
        uniqueLandmarkRoles, noPlaceholderAsLabel, tableHeaderScopeIsValid, noInsecureUrls]
  uniform := by decide

def errors : RuleGroup where
  category := .errors
  rules :=
      [attributesHaveNoWhitespace, tabindexNotPositive, hrefNotEmpty, linksHaveAccessibleName,
        imagesHaveAlt, roleImgHasLabel, imagesHaveValidSource, labelForNotEmpty,
        formFieldsHaveLabel, buttonInputsHaveLabel, buttonsHaveAccessibleName,
        buttonAttributesNotEmpty, buttonsHaveType, nonSubmitButtonsHaveNoFormAttributes,
        disabledStyledControlsAreDisabled, inputsHaveType, optgroupsHaveLabel, iframesHaveTitle,
        formsHaveAction, htmlHasValidLang, presentationTablesHaveNoSemantics,
        widthHeightOnAllowedElements, noInlineEventHandlers, cssIdentifiersAreValid,
        titleNotEmpty, viewportAllowsZoom, charsetIsUtf8, charsetIsFirst, dirAttributeIsValid,
        noAccesskey, radioCheckboxInputsHaveName, radiosInsideFieldset,
        sliderRoleHasRequiredAttributes, spinbuttonRoleHasRequiredAttributes,
        checkboxRoleHasAriaChecked, comboboxRoleHasAriaExpanded,
        scrollbarRoleHasRequiredAttributes, noNestedInteractiveElements]
  uniform := by decide

def obsoletes : RuleGroup where
  category := .obsoletes
  rules :=
      [noObsoleteTags, noObsoleteAttributes]
  uniform := by decide

def warnings : RuleGroup where
  category := .warnings
  rules :=
      [listItemsHaveValidParent, definitionListStructureIsValid,
        definitionListItemsHaveValidParent, figcaptionInsideFigure, noInvalidNesting,
        noDivInsideInline, noSectioningWrappers, legendIsFirstChild, summaryIsFirstChild,
        abbrHasTitle, altIsNotFileName, decorativeImagesHaveNoName, noRolePresentationOnImages,
        svgHasRoleOrHidden, mediaHasNoAutoplay, mediaHasControls, noEmptyElements,
        noNestedTables, tablesHaveCaption, tableStructureIsOrdered, tablesHaveThead,
        javascriptLinksHaveButtonRole, hashLinksHaveButtonRole, headingRoleHasLevel,
        labelsHaveControl, dirMatchesLang]
  uniform := by decide

def registry : Registry :=
  .ofGroups [advice, errors, obsoletes, warnings]

end MarkupAudit.Catalogue
